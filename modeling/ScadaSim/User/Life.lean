import ScadaSim.User.RetryLoop

/-!
# The transmissions of a user

An `InetUser` without an attached profile, from its construction on: applications make
themselves known to it, and it is called for one transmission after the other. A call
comes with managers in any state that their own calls can leave them in.
-/

namespace ScadaSim.User

open Lib Traffic

variable {fp : Doubles}

/-- A transmission that was started, with the run of the loop that found the server. -/
structure Started where
  profileID : Int
  runs : Nat

/-- `started` keeps the transmissions, the last one first; no function reads it. -/
structure UserLife where
  user : InetUser
  search : Option Retry := none
  started : List Started := []

/-- Managers in service. -/
structure InService (fp : Doubles) (hier : Hierarchy) where
  sim : Sim
  reachable : (service fp hier).Reachable sim.cms

inductive UserAct (fp : Doubles) (hier : Hierarchy)
  | setApplication (applicationType : ApplicationType) (attachedProfileNumber : Int)
  /-- With what is to be booked, or without, after the wakeup. -/
  | transmissionDone (t : Option TransmissionStatistics) (managers : InService fp hier)
  /-- The search in `transmissionDone()` goes on. -/
  | turn (rng : Rng fp)

namespace UserLife

/-- What comes behind the search, when it has found a server. -/
def begin (s : UserLife) (r : Request) : Option UserLife :=
  match InetUser.startTransmission
    { s.user with curTargetInfo := r.ti, curTrafficProfile := r.tp } r.sim with
  | .error _ => none
  | .ok d => some {
      user := d.user
      started :=
        match d.start with
        | none => s.started
        | some _ => ⟨r.tp.profileID, r.runs⟩ :: s.started }

/-- The search turns into `x`. -/
def turnTo (s : UserLife) : Retry → Option UserLife
  | .left r => s.begin r
  | x => some { s with search := some x }

variable {hier : Hierarchy}

def next (profiles : List TrafficProfile) (s : UserLife) : UserAct fp hier → Option UserLife
  | .setApplication a n =>
      if s.search.isSome then none else some { s with user := s.user.setApplication a n }
  | .transmissionDone t managers =>
      if s.search.isSome ∨ s.user.attachedProfileId ≠ -1 then none
      else
        let user := t.elim s.user s.user.book
        some { s with user := user, search := some (.start user managers.sim) }
  | .turn rng => s.search.bind fun x => (x.next s.user profiles rng).bind s.turnTo

end UserLife

def userLife (fp : Doubles) (hier : Hierarchy) (profiles : List TrafficProfile) :
    TSys UserLife (UserAct fp hier) where
  init := fun s => ∃ cm id, s = { user := { cm := cm, id := id } }
  step := fun s a s' => s.next profiles a = some s'

section Steps

variable {hier : Hierarchy} {profiles : List TrafficProfile} {s s' : UserLife}

theorem next_setApplication {a : ApplicationType} {n : Int}
    (h : s.next profiles (.setApplication a n : UserAct fp hier) = some s') :
    s.search = none ∧ s' = { s with user := s.user.setApplication a n } := by
  rw [UserLife.next] at h
  split_ifs at h with hsearch
  exact ⟨Option.not_isSome_iff_eq_none.mp hsearch, (Option.some.inj h).symm⟩

theorem next_transmissionDone {t : Option TransmissionStatistics} {managers : InService fp hier}
    (h : s.next profiles (.transmissionDone t managers) = some s') :
    s.search = none ∧ s.user.attachedProfileId = -1 ∧
      s' = { s with
        user := t.elim s.user s.user.book
        search := some (.start (t.elim s.user s.user.book) managers.sim) } := by
  rw [UserLife.next] at h
  split_ifs at h with hbusy
  obtain ⟨hsearch, hfree⟩ := not_or.mp hbusy
  exact ⟨Option.not_isSome_iff_eq_none.mp hsearch, not_not.mp hfree, (Option.some.inj h).symm⟩

theorem next_turn {rng : Rng fp} (h : s.next profiles (.turn rng : UserAct fp hier) = some s') :
    ∃ x y, s.search = some x ∧ x.next s.user profiles rng = some y ∧ s.turnTo y = some s' := by
  obtain ⟨x, hx, hturn⟩ := Option.bind_eq_some_iff.mp h
  obtain ⟨y, hy, hturn⟩ := Option.bind_eq_some_iff.mp hturn
  exact ⟨x, y, hx, hy, hturn⟩

end Steps

/-! ## What stays as it is -/

/-- Nothing is ever assigned to `previousProfileId`. -/
theorem startTransmission_previous (u : InetUser) (sim : Sim) :
    Post (fun d => d.user.previousProfileId = u.previousProfileId) (u.startTransmission sim) := by
  unfold InetUser.startTransmission
  cases GET_APP_TYPE u.curTrafficProfile.profileID with
  | notSet => exact Post.error _
  | udpApp => rfl
  | icmpApp => rfl
  | tcpApp => rfl

theorem setApplication_previous (u : InetUser) (a : ApplicationType) (n : Int) :
    (u.setApplication a n).previousProfileId = u.previousProfileId := by
  unfold InetUser.setApplication
  split <;> rfl

theorem begin_previous {s s' : UserLife} {r : Request} (h : s.begin r = some s') :
    s'.user.previousProfileId = s.user.previousProfileId := by
  have hstart := startTransmission_previous
    { s.user with curTargetInfo := r.ti, curTrafficProfile := r.tp } r.sim
  unfold UserLife.begin at h
  cases hd : InetUser.startTransmission
      { s.user with curTargetInfo := r.ti, curTrafficProfile := r.tp } r.sim with
  | error e =>
      rw [hd] at h
      cases h
  | ok d =>
      rw [hd] at h
      cases h
      exact hstart.of_ok hd

theorem turnTo_previous {s s' : UserLife} {x : Retry} (h : s.turnTo x = some s') :
    s'.user.previousProfileId = s.user.previousProfileId := by
  cases x with
  | left r => exact begin_previous h
  | attempt runs exceptId ti tp sim => cases h; rfl
  | redraw runs exceptId ti tp isForeign sim => cases h; rfl
  | choose runs ti tp isForeign sim => cases h; rfl
  | failed e => cases h; rfl

variable {hier : Hierarchy} {profiles : List TrafficProfile}

theorem userLife_previous :
    (userLife fp hier profiles).Invariant fun s => s.user.previousProfileId = -1 := by
  refine TSys.Inductive.invariant ⟨?_, ?_⟩
  · rintro s ⟨cm, id, rfl⟩
    rfl
  · intro s a s' hs hstep
    cases a with
    | setApplication a n =>
        obtain ⟨-, rfl⟩ := next_setApplication hstep
        exact (setApplication_previous _ _ _).trans hs
    | transmissionDone t managers =>
        obtain ⟨-, -, rfl⟩ := next_transmissionDone hstep
        cases t with
        | none => exact hs
        | some t => exact hs
    | turn rng =>
        obtain ⟨x, y, -, -, hturn⟩ := next_turn hstep
        exact (turnTo_previous hturn).trans hs

end ScadaSim.User
