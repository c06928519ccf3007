import ScadaSim.Lib.TSys
import ScadaSim.Traffic.Offer
import ScadaSim.Traffic.Sampling
import ScadaSim.User.InetUser

/-!
# The search for a server

The two nested loops of `transmissionDone()` for a user without an attached profile, one
turn at a time, each with numbers of its own. `request_settled` is the connection with
`InetUser.request`, which bounds the inner loop.
-/

namespace ScadaSim.User

open Lib Traffic

variable {fp : Doubles}

/-- Where the search is. -/
inductive Retry
  /-- The head of the outer loop, after `runs` runs. -/
  | attempt (runs : Nat) (exceptId : Int) (ti : TargetInfo) (tp : TrafficProfile) (sim : Sim)
  /-- In `getServer`, the head of `while (tp.profileID == except)`. -/
  | redraw (runs : Nat) (exceptId : Int) (ti : TargetInfo) (tp : TrafficProfile)
      (isForeign : Bool) (sim : Sim)
  /-- In `getServer`, behind the draw of the profile. -/
  | choose (runs : Nat) (ti : TargetInfo) (tp : TrafficProfile) (isForeign : Bool) (sim : Sim)
  /-- Behind the outer loop, with a server. -/
  | left (r : Request)
  | failed (e : Failure)

namespace Retry

def gaveUp : Failure :=
  .oppError ("No valid server could be requested for randomly selected traffic " ++
    "profiles (tried 100 times)")

/-- The condition of the outer loop, and of the error behind it. -/
def after (runs : Nat) (ti : TargetInfo) (tp : TrafficProfile) (sim : Sim) : Retry :=
  if ti.address = 0 then
    if runs < 100 then .attempt runs tp.profileID ti tp sim else .failed gaveUp
  else .left ⟨runs, ti, tp, sim⟩

/-- One turn. -/
def next (u : InetUser) (profiles : List TrafficProfile) (rng : Rng fp) : Retry → Option Retry
  | .attempt runs exceptId ti tp sim =>
      let runs := runs + 1
      let exceptId := if runs = 50 then -1 else exceptId
      if exceptId = -1 then
        match drawProfile rng profiles false sim.pos with
        | .error e => some (.failed e)
        | .ok (tp, isForeign) => some (.choose runs ti tp isForeign { sim with pos := sim.pos + 2 })
      else some (.redraw runs exceptId ti tp false sim)
  | .redraw runs exceptId ti tp isForeign sim =>
      if tp.profileID = exceptId then
        match drawProfile rng profiles isForeign sim.pos with
        | .error e => some (.failed e)
        | .ok (tp, isForeign) =>
            some (.redraw runs exceptId ti tp isForeign { sim with pos := sim.pos + 2 })
      else some (.choose runs ti tp isForeign sim)
  | .choose runs ti tp isForeign sim =>
      match chooseServer rng u.cm ti tp.profileID isForeign u.id sim with
      | .error e => some (.failed e)
      | .ok (_, ti, sim) => some (.after runs ti tp sim)
  | .left _ => none
  | .failed _ => none

/-- The search has come to an end. -/
def Ended : Retry → Prop
  | .left _ => True
  | .failed _ => True
  | _ => False

/-- The head of the outer loop, as `transmissionDone()` comes to it. -/
def start (u : InetUser) (sim : Sim) : Retry :=
  .attempt 0 u.previousProfileId u.curTargetInfo u.curTrafficProfile sim

end Retry

def retryLoop (fp : Doubles) (u : InetUser) (profiles : List TrafficProfile) (sim : Sim) :
    TSys Retry (Rng fp) where
  init := fun s => s = .start u sim
  step := fun s rng s' => s.next u profiles rng = some s'

/-! ## What a turn does -/

section Turns

variable {u : InetUser} {profiles : List TrafficProfile} {rng : Rng fp} {runs : Nat}
  {exceptId : Int} {ti : TargetInfo} {tp : TrafficProfile} {isForeign : Bool} {sim : Sim}

theorem next_attempt_draw (hfree : (if runs + 1 = 50 then -1 else exceptId) = -1)
    {drawn : TrafficProfile × Bool} (hdraw : drawProfile rng profiles false sim.pos = .ok drawn) :
    Retry.next u profiles rng (.attempt runs exceptId ti tp sim) =
      some (.choose (runs + 1) ti drawn.1 drawn.2 { sim with pos := sim.pos + 2 }) := by
  unfold Retry.next
  dsimp only
  rw [if_pos hfree, hdraw]

theorem next_attempt_exclude (hexcluded : (if runs + 1 = 50 then -1 else exceptId) ≠ -1) :
    Retry.next u profiles rng (.attempt runs exceptId ti tp sim) =
      some (.redraw (runs + 1) (if runs + 1 = 50 then -1 else exceptId) ti tp false sim) := by
  unfold Retry.next
  dsimp only
  rw [if_neg hexcluded]

theorem next_redraw_draw (hsame : tp.profileID = exceptId) {drawn : TrafficProfile × Bool}
    (hdraw : drawProfile rng profiles isForeign sim.pos = .ok drawn) :
    Retry.next u profiles rng (.redraw runs exceptId ti tp isForeign sim) =
      some (.redraw runs exceptId ti drawn.1 drawn.2 { sim with pos := sim.pos + 2 }) := by
  rw [Retry.next, if_pos hsame, hdraw]

theorem next_redraw_keep (hother : tp.profileID ≠ exceptId) :
    Retry.next u profiles rng (.redraw runs exceptId ti tp isForeign sim) =
      some (.choose runs ti tp isForeign sim) := if_neg hother

theorem next_choose_error {e : Failure}
    (hchoose : chooseServer rng u.cm ti tp.profileID isForeign u.id sim = .error e) :
    Retry.next u profiles rng (.choose runs ti tp isForeign sim) = some (.failed e) := by
  rw [Retry.next, hchoose]

theorem next_choose_ok {via : Via} {found : TargetInfo} {sim' : Sim}
    (hchoose : chooseServer rng u.cm ti tp.profileID isForeign u.id sim = .ok (via, found, sim')) :
    Retry.next u profiles rng (.choose runs ti tp isForeign sim) =
      some (.after runs found tp sim') := by
  rw [Retry.next, hchoose]

end Turns

/-! ## The search with one generator -/

/-- How the outer loop comes out. -/
def settle : Except Failure Request → Retry
  | .error e => .failed e
  | .ok r => if r.runs = 100 ∧ r.ti.address = 0 then .failed Retry.gaveUp else .left r

theorem settle_gaveUp {r : Request} (hruns : r.runs = 100) (haddress : r.ti.address = 0) :
    settle (.ok r) = .failed Retry.gaveUp := if_pos ⟨hruns, haddress⟩

theorem settle_left {r : Request} (haddress : r.ti.address ≠ 0) : settle (.ok r) = .left r :=
  if_neg fun h => haddress h.2

section Connection

variable {u : InetUser} {profiles : List TrafficProfile} {sim₀ : Sim}

theorem redrawLoop_reachable (rng : Rng fp) {exceptId : Int} {runs : Nat} {ti : TargetInfo}
    {cms : Managers} (fuel : Nat) {tp : TrafficProfile} {isForeign : Bool} {pos : Nat}
    (h : (retryLoop fp u profiles sim₀).Reachable
      (.redraw runs exceptId ti tp isForeign ⟨cms, pos⟩)) :
    match redrawLoop rng profiles exceptId fuel tp isForeign pos with
    | .ok (tp', isForeign', pos') =>
        (retryLoop fp u profiles sim₀).Reachable (.choose runs ti tp' isForeign' ⟨cms, pos'⟩)
    | .error e => e ≠ .nonTermination → (retryLoop fp u profiles sim₀).Reachable (.failed e) := by
  induction fuel generalizing tp isForeign pos with
  | zero =>
      unfold redrawLoop
      by_cases hsame : tp.profileID = exceptId
      · rw [if_pos hsame]
        exact fun hne => absurd rfl hne
      · rw [if_neg hsame]
        exact .step (a := rng) h (next_redraw_keep hsame)
  | succ fuel ih =>
      unfold redrawLoop
      by_cases hsame : tp.profileID = exceptId
      · rw [if_pos hsame]
        cases hdraw : drawProfile rng profiles isForeign pos with
        | error e =>
            refine fun _ => .step (a := rng) h ?_
            show Retry.next u profiles rng (.redraw runs exceptId ti tp isForeign ⟨cms, pos⟩) = _
            rw [Retry.next, if_pos hsame, hdraw]
        | ok drawn => exact ih (.step (a := rng) h (next_redraw_draw hsame hdraw))
      · rw [if_neg hsame]
        exact .step (a := rng) h (next_redraw_keep hsame)

/-- The search goes on as the run of the outer loop says that called `getServer`. -/
def Arrives (fp : Doubles) (u : InetUser) (profiles : List TrafficProfile) (sim₀ : Sim)
    (runs : Nat) : Except Failure Selection → Prop
  | .ok r => r.except = some r.tp.profileID ∧
      (retryLoop fp u profiles sim₀).Reachable (.after runs r.ti r.tp r.sim)
  | .error e => e ≠ .nonTermination → (retryLoop fp u profiles sim₀).Reachable (.failed e)

theorem choose_arrives (rng : Rng fp) {runs : Nat} {ti : TargetInfo} {tp : TrafficProfile}
    {isForeign : Bool} {sim : Sim}
    (h : (retryLoop fp u profiles sim₀).Reachable (.choose runs ti tp isForeign sim)) :
    Arrives fp u profiles sim₀ runs (do
      let (via, ti, sim) ← chooseServer rng u.cm ti tp.profileID isForeign u.id sim
      return { via := via, ti := ti, tp := tp, except := some tp.profileID, sim := sim }) := by
  cases hchoose : chooseServer rng u.cm ti tp.profileID isForeign u.id sim with
  | error e => exact fun _ => .step (a := rng) h (next_choose_error hchoose)
  | ok chosen => exact ⟨rfl, .step (a := rng) h (next_choose_ok hchoose)⟩

/-- One run of the outer loop is a call of `getServer`. -/
theorem getServer_arrives (s : Supply) {exceptId : Int} {runs : Nat} {ti : TargetInfo}
    {tp : TrafficProfile} {sim : Sim}
    (h : (retryLoop s.fp u s.profiles sim₀).Reachable (.attempt runs exceptId ti tp sim)) :
    Arrives s.fp u s.profiles sim₀ (runs + 1)
      (getServer s.rng s.fuel s.profiles u.cm ti tp (if runs + 1 = 50 then -1 else exceptId) u.id
        sim) := by
  unfold getServer
  by_cases hfree : (if runs + 1 = 50 then -1 else exceptId) = -1
  · rw [if_pos hfree]
    cases hdraw : drawProfile s.rng s.profiles false sim.pos with
    | error e =>
        refine fun _ => .step (a := s.rng) h ?_
        show Retry.next u s.profiles s.rng (.attempt runs exceptId ti tp sim) = _
        rw [Retry.next, if_pos hfree, hdraw]
    | ok drawn => exact choose_arrives s.rng (.step (a := s.rng) h (next_attempt_draw hfree hdraw))
  · rw [if_neg hfree]
    have hloop := redrawLoop_reachable s.rng s.fuel
      (.step (a := s.rng) h (next_attempt_exclude hfree))
    cases hdrawn : redrawLoop s.rng s.profiles (if runs + 1 = 50 then -1 else exceptId) s.fuel tp
      false sim.pos with
    | error e =>
        rw [hdrawn] at hloop
        exact hloop
    | ok drawn =>
        rw [hdrawn] at hloop
        exact choose_arrives s.rng hloop

/-- `h` is where the turns stand when there are `left` runs left, or none. -/
theorem requestLoop_settled (s : Supply) (left : Nat) (hleft : left ≤ 100) {exceptId : Int}
    {ti : TargetInfo} {tp : TrafficProfile} {sim : Sim} (hlast : left = 0 → ti.address = 0)
    (h : (retryLoop s.fp u s.profiles sim₀).Reachable
      (if left = 0 then .failed Retry.gaveUp else .attempt (100 - left) exceptId ti tp sim))
    (hends : u.requestLoop s left exceptId ti tp sim ≠ .error .nonTermination) :
    (retryLoop s.fp u s.profiles sim₀).Reachable
      (settle (u.requestLoop s left exceptId ti tp sim)) := by
  induction left generalizing exceptId ti tp sim with
  | zero =>
      unfold InetUser.requestLoop
      rw [settle_gaveUp rfl (hlast rfl)]
      exact h
  | succ left ih =>
      rw [if_neg (Nat.succ_ne_zero left)] at h
      have hrun := getServer_arrives s h
      rw [show 100 - (left + 1) + 1 = 100 - left by omega] at hrun
      unfold InetUser.requestLoop at hends ⊢
      dsimp only at hends ⊢
      cases hserver : getServer s.rng s.fuel s.profiles u.cm ti tp
          (if 100 - left = 50 then -1 else exceptId) u.id sim with
      | error e =>
          rw [hserver] at hrun hends
          exact hrun fun he => hends (he ▸ rfl)
      | ok r =>
          rw [hserver] at hrun hends
          obtain ⟨hexcept, hafter⟩ := hrun
          rw [ok_bind] at hends ⊢
          unfold Retry.after at hafter
          by_cases haddress : r.ti.address = 0
          · rw [if_pos haddress] at hafter hends ⊢
            refine ih (by omega) (fun _ => haddress) ?_ hends
            rw [hexcept, Option.getD_some]
            by_cases hlast' : left = 0
            · rw [if_neg (by omega)] at hafter
              rw [if_pos hlast']
              exact hafter
            · rw [if_pos (by omega)] at hafter
              rw [if_neg hlast']
              exact hafter
          · rw [if_neg haddress] at hafter ⊢
            rw [settle_left haddress]
            exact hafter

/-- What `request` comes to is where the turns lead with its generator, unless the redraws
are cut off. -/
theorem request_settled (s : Supply) (hfree : u.attachedProfileId = -1) {sim : Sim}
    (hends : u.request s sim ≠ .error .nonTermination) :
    match u.request s sim with
    | .ok r => (retryLoop s.fp u s.profiles sim).Reachable (.left r)
    | .error e => (retryLoop s.fp u s.profiles sim).Reachable (.failed e) := by
  have hstart : (retryLoop s.fp u s.profiles sim).Reachable (.start u sim) := .init rfl
  have hloop := requestLoop_settled s 100 le_rfl (fun h => by cases h) hstart
  unfold InetUser.request at hends ⊢
  rw [if_pos hfree] at hends ⊢
  cases hrequest : u.requestLoop s 100 u.previousProfileId u.curTargetInfo u.curTrafficProfile
      sim with
  | error e =>
      rw [hrequest] at hloop hends
      exact hloop hends
  | ok r =>
      rw [hrequest] at hloop
      have hsettled := hloop (fun h => by cases h)
      rw [ok_bind]
      by_cases hlast : r.runs = 100 ∧ r.ti.address = 0
      · rw [settle_gaveUp hlast.1 hlast.2] at hsettled
        rw [if_pos hlast]
        exact hsettled
      · rw [show settle (.ok r) = .left r from if_neg hlast] at hsettled
        rw [if_neg hlast]
        exact hsettled

end Connection

end ScadaSim.User
