import ScadaSim.User.AttachedProfile
import ScadaSim.User.Life

/-!
# The end of the search

A redraw ends only with a profile of another id. Where the excluded id is the only one
that can be drawn, `getServer` draws for ever, and the bound of 100 runs, which is in
the loop around it, is of no use. `search_leavable_iff`: this is what happens when the
first attempt finds no server and there is no second id. All of it is for doubles that
round: what can be drawn depends on the sums of the probabilities.
-/

namespace ScadaSim.User

open Lib Traffic

variable {fp : Doubles}

/-- Some draw selects `t`. -/
def Drawable (fp : Doubles) (profiles : List TrafficProfile) (t : TrafficProfile) : Prop :=
  ∃ i, Selectable fp profiles i ∧ profiles[i]? = some t

/-- At the head of the redraw loop, if it goes on: some pair of draws ends it. -/
def Retry.Leavable (fp : Doubles) (profiles : List TrafficProfile) : Retry → Prop
  | .redraw _ exceptId _ tp isForeign _ => tp.profileID = exceptId →
      ∃ profileProb foreignServerProb, fp.drawn profileProb ∧ fp.drawn foreignServerProb ∧
        ∃ t, getTrafficProfile fp profiles profileProb foreignServerProb isForeign =
          .ok (t, decideForeign t foreignServerProb isForeign) ∧ t.profileID ≠ exceptId
  | _ => True

/-- The first attempt finds a server for `t`, or a manager complains, whatever is drawn. -/
def Served (fp : Doubles) (u : InetUser) (sim : Sim) (t : TrafficProfile) : Prop :=
  ∀ (rng : Rng fp) (q : Rat), fp.drawn q →
    offer rng sim.cms u.cm t.profileID (decideForeign t q false) u.id (sim.pos + 2) = .refusal ∨
      ∃ ti, offer rng sim.cms u.cm t.profileID (decideForeign t q false) u.id (sim.pos + 2) =
        .server ti ∧ ti.address ≠ 0

/-- There are two ids to draw, or the only one is that for no exclusion, or the first
attempt finds a server. -/
def Escapable (fp : Doubles) (u : InetUser) (profiles : List TrafficProfile) (sim : Sim) : Prop :=
  (∃ t t', Drawable fp profiles t ∧ Drawable fp profiles t' ∧ t.profileID ≠ t'.profileID) ∨
    (∀ t, Drawable fp profiles t → t.profileID = -1) ∨
    ∀ t, Drawable fp profiles t → Served fp u sim t

/-! ## Draws -/

theorem drawable_iff {profiles : List TrafficProfile} {t : TrafficProfile} :
    Drawable fp profiles t ↔ ∃ p, fp.drawn p ∧ scanProfiles fp p 0 profiles = some t := by
  constructor
  · rintro ⟨i, hselect, hget⟩
    obtain ⟨p, hp, hi⟩ := (selectable_iff fp hselect.1).mp hselect
    refine ⟨p, hp, ?_⟩
    rw [scanProfiles_eq_getElem, show Cumulative.stop fp.plus p 0 (ratios profiles) = i from hi]
    exact hget
  · rintro ⟨p, hp, hscan⟩
    rw [scanProfiles_eq_getElem] at hscan
    obtain ⟨hlt, -⟩ := List.getElem?_eq_some_iff.mp hscan
    exact ⟨_, (selectable_iff fp hlt).mpr ⟨p, hp, rfl⟩, hscan⟩

/-- What a pair of draws comes to. -/
theorem drawProfile_ok (rng : Rng fp) {profiles : List TrafficProfile} (hne : profiles ≠ [])
    (isForeign : Bool) (pos : Nat) :
    ∃ t, Drawable fp profiles t ∧
      drawProfile rng profiles isForeign pos =
        .ok (t, decideForeign t (rng.unit pos) isForeign) := by
  have hlt := selected_lt fp hne (rng.unit (pos + 1))
  have hscan := scanProfiles_eq_getElem fp (rng.unit (pos + 1)) 0 profiles
  rw [show Cumulative.stop fp.plus (rng.unit (pos + 1)) 0 (ratios profiles) =
    selected fp profiles (rng.unit (pos + 1)) from rfl, List.getElem?_eq_getElem hlt] at hscan
  refine ⟨_, drawable_iff.mpr ⟨_, rng.unit_drawn (pos + 1), hscan⟩, ?_⟩
  unfold drawProfile getTrafficProfile
  rw [hscan]

/-- A generator that draws a given pair at `pos`. -/
def pairRng (pos : Nat) (p q : Rat) (hp : fp.drawn p) (hq : fp.drawn q) : Rng fp where
  index := fun _ _ => 0
  unit := fun k => if k = pos then q else p
  index_lt := fun _ _ hn => hn
  unit_drawn := by
    intro k
    split
    · exact hq
    · exact hp

theorem drawProfile_pairRng {profiles : List TrafficProfile} {t : TrafficProfile} {p q : Rat}
    (hp : fp.drawn p) (hq : fp.drawn q) (hscan : scanProfiles fp p 0 profiles = some t)
    (isForeign : Bool) (pos : Nat) :
    drawProfile (pairRng pos p q hp hq) profiles isForeign pos =
      .ok (t, decideForeign t q isForeign) := by
  have hp' : (pairRng pos p q hp hq).unit (pos + 1) = p := if_neg (Nat.succ_ne_self pos)
  have hq' : (pairRng pos p q hp hq).unit pos = q := if_pos rfl
  unfold drawProfile getTrafficProfile
  rw [hp', hq', hscan]

theorem leavable_redraw_iff {profiles : List TrafficProfile} {runs : Nat} {exceptId : Int}
    {ti : TargetInfo} {tp : TrafficProfile} {isForeign : Bool} {sim : Sim}
    (hsame : tp.profileID = exceptId) :
    (Retry.redraw runs exceptId ti tp isForeign sim).Leavable fp profiles ↔
      ∃ t, Drawable fp profiles t ∧ t.profileID ≠ exceptId := by
  constructor
  · intro h
    obtain ⟨p, q, hp, -, t, hdraw, hother⟩ := h hsame
    refine ⟨t, drawable_iff.mpr ⟨p, hp, ?_⟩, hother⟩
    unfold getTrafficProfile at hdraw
    cases hscan : scanProfiles fp p 0 profiles with
    | none =>
        rw [hscan] at hdraw
        cases hdraw
    | some t' =>
        rw [hscan] at hdraw
        exact congrArg some (congrArg Prod.fst (Except.ok.inj hdraw))
  · rintro ⟨t, hdraw, hother⟩ -
    obtain ⟨p, hp, hscan⟩ := drawable_iff.mp hdraw
    refine ⟨p, 0, hp, fp.drawn_zero, t, ?_, hother⟩
    unfold getTrafficProfile
    rw [hscan]

theorem leavable_of_ne {profiles : List TrafficProfile} {x : Retry}
    (h : ∀ runs exceptId ti tp isForeign sim, x ≠ .redraw runs exceptId ti tp isForeign sim) :
    x.Leavable fp profiles := by
  cases x with
  | redraw runs exceptId ti tp isForeign sim => exact absurd rfl (h _ _ _ _ _ _)
  | attempt runs exceptId ti tp sim => trivial
  | choose runs ti tp isForeign sim => trivial
  | left r => trivial
  | failed e => trivial

theorem leavable_of_drawable {profiles : List TrafficProfile}
    (h : ∀ exceptId, ∃ t, Drawable fp profiles t ∧ t.profileID ≠ exceptId) (x : Retry) :
    x.Leavable fp profiles := by
  cases x with
  | redraw runs exceptId ti tp isForeign sim =>
      intro hsame
      have hiff : (Retry.redraw runs exceptId ti tp isForeign sim).Leavable fp profiles ↔ _ :=
        leavable_redraw_iff hsame
      exact hiff.mpr (h exceptId) hsame
  | attempt runs exceptId ti tp sim => trivial
  | choose runs ti tp isForeign sim => trivial
  | left r => trivial
  | failed e => trivial

/-! ## Where every redraw can be left -/

section Leaving

variable {u : InetUser} {profiles : List TrafficProfile} {sim₀ : Sim} {runs : Nat}

/-- A generator; where the draws do not matter, any will do. -/
def zeroRng : Rng fp := pairRng 0 0 0 fp.drawn_zero fp.drawn_zero

theorem choose_canEnd {ti : TargetInfo} {tp : TrafficProfile} {isForeign : Bool} {sim : Sim}
    (hreach : (retryLoop fp u profiles sim₀).Reachable (.choose runs ti tp isForeign sim))
    (hagain : runs < 100 → ∀ exceptId ti tp sim,
      (retryLoop fp u profiles sim₀).Reachable (.attempt runs exceptId ti tp sim) →
        (retryLoop fp u profiles sim₀).CanReach Retry.Ended (.attempt runs exceptId ti tp sim)) :
    (retryLoop fp u profiles sim₀).CanReach Retry.Ended (.choose runs ti tp isForeign sim) := by
  cases hchoose : chooseServer zeroRng u.cm ti tp.profileID isForeign u.id sim with
  | error e => exact .step (a := zeroRng) (next_choose_error hchoose) (.here True.intro)
  | ok chosen =>
      obtain ⟨via, found, sim'⟩ := chosen
      have hstep : (retryLoop fp u profiles sim₀).step (.choose runs ti tp isForeign sim) zeroRng
          (.after runs found tp sim') := next_choose_ok hchoose
      have hnext : (retryLoop fp u profiles sim₀).Reachable (.after runs found tp sim') :=
        .step hreach hstep
      refine .step hstep ?_
      unfold Retry.after at hnext ⊢
      by_cases haddress : found.address = 0
      · rw [if_pos haddress] at hnext ⊢
        by_cases hruns : runs < 100
        · rw [if_pos hruns] at hnext ⊢
          exact hagain hruns _ _ _ _ hnext
        · rw [if_neg hruns]
          exact .here True.intro
      · rw [if_neg haddress]
        exact .here True.intro

theorem redraw_canEnd {exceptId : Int} {ti : TargetInfo} {tp : TrafficProfile} {isForeign : Bool}
    {sim : Sim} (hleave : (retryLoop fp u profiles sim₀).Invariant (Retry.Leavable fp profiles))
    (hreach : (retryLoop fp u profiles sim₀).Reachable (.redraw runs exceptId ti tp isForeign sim))
    (hagain : runs < 100 → ∀ exceptId ti tp sim,
      (retryLoop fp u profiles sim₀).Reachable (.attempt runs exceptId ti tp sim) →
        (retryLoop fp u profiles sim₀).CanReach Retry.Ended (.attempt runs exceptId ti tp sim)) :
    (retryLoop fp u profiles sim₀).CanReach Retry.Ended
      (.redraw runs exceptId ti tp isForeign sim) := by
  have hkeep {tp' : TrafficProfile} {isForeign' : Bool} {sim' : Sim}
      (hreach' : (retryLoop fp u profiles sim₀).Reachable
        (.redraw runs exceptId ti tp' isForeign' sim'))
      (hother : tp'.profileID ≠ exceptId) : (retryLoop fp u profiles sim₀).CanReach Retry.Ended
        (.redraw runs exceptId ti tp' isForeign' sim') := by
    have hstep : (retryLoop fp u profiles sim₀).step (.redraw runs exceptId ti tp' isForeign' sim')
        zeroRng (.choose runs ti tp' isForeign' sim') := next_redraw_keep hother
    exact .step hstep (choose_canEnd (.step hreach' hstep) hagain)
  by_cases hsame : tp.profileID = exceptId
  · obtain ⟨t, hdrawable, hother⟩ := (leavable_redraw_iff hsame).mp (hleave _ hreach)
    obtain ⟨p, hp, hscan⟩ := drawable_iff.mp hdrawable
    have hdraw := drawProfile_pairRng hp fp.drawn_zero hscan isForeign sim.pos
    have hstep : (retryLoop fp u profiles sim₀).step (.redraw runs exceptId ti tp isForeign sim)
        _ _ := next_redraw_draw hsame hdraw
    exact .step hstep (hkeep (.step hreach hstep) hother)
  · exact hkeep hreach hsame

theorem run_canEnd (hne : profiles ≠ [])
    (hleave : (retryLoop fp u profiles sim₀).Invariant (Retry.Leavable fp profiles))
    {exceptId : Int} {ti : TargetInfo} {tp : TrafficProfile} {sim : Sim}
    (hreach : (retryLoop fp u profiles sim₀).Reachable (.attempt runs exceptId ti tp sim))
    (hagain : runs + 1 < 100 → ∀ exceptId ti tp sim,
      (retryLoop fp u profiles sim₀).Reachable (.attempt (runs + 1) exceptId ti tp sim) →
        (retryLoop fp u profiles sim₀).CanReach Retry.Ended
          (.attempt (runs + 1) exceptId ti tp sim)) :
    (retryLoop fp u profiles sim₀).CanReach Retry.Ended (.attempt runs exceptId ti tp sim) := by
  by_cases hfree : (if runs + 1 = 50 then -1 else exceptId) = -1
  · obtain ⟨t, -, hdraw⟩ := drawProfile_ok zeroRng hne false sim.pos
    have hstep : (retryLoop fp u profiles sim₀).step (.attempt runs exceptId ti tp sim) zeroRng _ :=
      next_attempt_draw hfree hdraw
    exact .step hstep (choose_canEnd (.step hreach hstep) hagain)
  · have hstep : (retryLoop fp u profiles sim₀).step (.attempt runs exceptId ti tp sim) zeroRng _ :=
      next_attempt_exclude hfree
    exact .step hstep (redraw_canEnd hleave (.step hreach hstep) hagain)

/-- The bound on the runs takes care of the outer loop. -/
theorem attempt_canEnd (hne : profiles ≠ [])
    (hleave : (retryLoop fp u profiles sim₀).Invariant (Retry.Leavable fp profiles)) (more : Nat)
    (hmore : 100 ≤ runs + more) {exceptId : Int} {ti : TargetInfo} {tp : TrafficProfile} {sim : Sim}
    (hreach : (retryLoop fp u profiles sim₀).Reachable (.attempt runs exceptId ti tp sim)) :
    (retryLoop fp u profiles sim₀).CanReach Retry.Ended (.attempt runs exceptId ti tp sim) := by
  induction more generalizing runs exceptId ti tp sim with
  | zero =>
      exact run_canEnd hne hleave hreach fun hagain => absurd hagain (by omega)
  | succ more ih =>
      exact run_canEnd hne hleave hreach fun _ _ _ _ _ h => ih (by omega) h

end Leaving

/-! ## Searches without a redraw -/

section NoRedraw

variable {u : InetUser} {profiles : List TrafficProfile} {sim₀ : Sim}

/-- The excluded id is the one that stands for none. -/
def Retry.Unrestricted : Retry → Prop
  | .attempt _ exceptId _ _ _ => exceptId = -1
  | .redraw _ _ _ _ _ _ => False
  | .choose _ _ tp _ _ => tp.profileID = -1
  | _ => True

theorem unrestricted (hne : profiles ≠ []) (hprevious : u.previousProfileId = -1)
    (hids : ∀ t, Drawable fp profiles t → t.profileID = -1) :
    (retryLoop fp u profiles sim₀).Invariant Retry.Unrestricted := by
  refine TSys.Inductive.invariant ⟨?_, ?_⟩
  · rintro _ rfl
    exact hprevious
  · intro s rng s' hs hstep
    change s.next u profiles rng = some s' at hstep
    cases s with
    | attempt runs exceptId ti tp sim =>
        have hfree : (if runs + 1 = 50 then -1 else exceptId) = -1 := by
          split
          · rfl
          · exact hs
        obtain ⟨t, hdrawable, hdraw⟩ := drawProfile_ok rng hne false sim.pos
        rw [next_attempt_draw hfree hdraw] at hstep
        cases hstep
        exact hids t hdrawable
    | redraw runs exceptId ti tp isForeign sim => exact hs.elim
    | choose runs ti tp isForeign sim =>
        cases hchoose : chooseServer rng u.cm ti tp.profileID isForeign u.id sim with
        | error e =>
            rw [next_choose_error hchoose] at hstep
            cases hstep
            trivial
        | ok chosen =>
            rw [next_choose_ok hchoose] at hstep
            cases hstep
            unfold Retry.after
            split_ifs
            · exact hs
            · trivial
            · trivial
    | left r => cases hstep
    | failed e => cases hstep

/-- The search is in its first run, or over. -/
def Retry.First (fp : Doubles) (profiles : List TrafficProfile) (sim₀ : Sim) : Retry → Prop
  | .attempt runs exceptId _ _ sim => runs = 0 ∧ exceptId = -1 ∧ sim = sim₀
  | .redraw _ _ _ _ _ _ => False
  | .choose _ _ tp isForeign sim => Drawable fp profiles tp ∧
      (∃ q, fp.drawn q ∧ isForeign = decideForeign tp q false) ∧
      sim = { sim₀ with pos := sim₀.pos + 2 }
  | _ => True

theorem first (hne : profiles ≠ []) (hprevious : u.previousProfileId = -1)
    (hw : WellFormed sim₀.cms) (hserved : ∀ t, Drawable fp profiles t → Served fp u sim₀ t) :
    (retryLoop fp u profiles sim₀).Invariant (Retry.First fp profiles sim₀) := by
  refine TSys.Inductive.invariant ⟨?_, ?_⟩
  · rintro _ rfl
    exact ⟨rfl, hprevious, rfl⟩
  · intro s rng s' hs hstep
    change s.next u profiles rng = some s' at hstep
    cases s with
    | attempt runs exceptId ti tp sim =>
        obtain ⟨rfl, rfl, rfl⟩ := hs
        obtain ⟨t, hdrawable, hdraw⟩ := drawProfile_ok rng hne false sim.pos
        rw [next_attempt_draw rfl hdraw] at hstep
        cases hstep
        exact ⟨hdrawable, ⟨_, rng.unit_drawn sim.pos, rfl⟩, rfl⟩
    | redraw runs exceptId ti tp isForeign sim => exact hs.elim
    | choose runs ti tp isForeign sim =>
        obtain ⟨hdrawable, ⟨q, hq, rfl⟩, rfl⟩ := hs
        have hchoice := chooseServer_offer rng u.cm ti tp.profileID (decideForeign tp q false) u.id
          { sim₀ with pos := sim₀.pos + 2 } hw
        have hoffer := hserved tp hdrawable rng q hq
        cases hchoose : chooseServer rng u.cm ti tp.profileID (decideForeign tp q false) u.id
            { sim₀ with pos := sim₀.pos + 2 } with
        | error e =>
            rw [next_choose_error hchoose] at hstep
            cases hstep
            trivial
        | ok chosen =>
            -- what is found has an address, so that the search is over
            rw [hchoose] at hchoice
            have haddress : chosen.2.1.address ≠ 0 := by
              rcases hoffer with hrefused | ⟨ti', hserver, haddress⟩
              · rw [hrefused] at hchoice
                cases hchoice
              · rw [hserver] at hchoice
                cases hchoice with
                | server a ti hfound => exact hfound.1 ▸ haddress
            rw [next_choose_ok hchoose] at hstep
            cases hstep
            unfold Retry.after
            rw [if_neg haddress]
            trivial
    | left r => cases hstep
    | failed e => cases hstep

end NoRedraw

/-! ## When the search can be left -/

/-- Every redraw can be left, and the search can come to an end from wherever it is. -/
def SearchLeavable (fp : Doubles) (u : InetUser) (profiles : List TrafficProfile) (sim : Sim) :
    Prop :=
  (retryLoop fp u profiles sim).Invariant fun x =>
    x.Leavable fp profiles ∧ (retryLoop fp u profiles sim).CanReach Retry.Ended x

/-- With one id to draw, a first attempt that finds nothing is followed by redraws. -/
theorem exists_redraw {u : InetUser} {profiles : List TrafficProfile} {sim : Sim}
    (hprevious : u.previousProfileId = -1) (hw : WellFormed sim.cms) {t : TrafficProfile}
    (hdrawable : Drawable fp profiles t) (hid : t.profileID ≠ -1) (hserved : ¬ Served fp u sim t) :
    ∃ ti sim', (retryLoop fp u profiles sim).Reachable (.redraw 2 t.profileID ti t false sim') := by
  unfold Served at hserved
  push Not at hserved
  obtain ⟨rng, q, hq, hrefused, hmissing⟩ := hserved
  obtain ⟨p, hp, hscan⟩ := drawable_iff.mp hdrawable
  have hdraw := drawProfile_pairRng hp hq hscan false sim.pos
  have hstart : (retryLoop fp u profiles sim).Reachable (.start u sim) := .init rfl
  unfold Retry.start at hstart
  rw [hprevious] at hstart
  have hfirst := TSys.Reachable.step hstart (show (retryLoop fp u profiles sim).step _ _ _ from
    next_attempt_draw rfl hdraw)
  have hchoice := chooseServer_offer rng u.cm u.curTargetInfo t.profileID (decideForeign t q false)
    u.id { sim with pos := sim.pos + 2 } hw
  obtain ⟨via, found, sim', hchoose, haddress⟩ : ∃ via found sim',
      chooseServer rng u.cm u.curTargetInfo t.profileID (decideForeign t q false) u.id
        { sim with pos := sim.pos + 2 } = .ok (via, found, sim') ∧ found.address = 0 := by
    generalize chooseServer rng u.cm u.curTargetInfo t.profileID (decideForeign t q false) u.id
      { sim with pos := sim.pos + 2 } = x at hchoice
    generalize offer rng sim.cms u.cm t.profileID (decideForeign t q false) u.id (sim.pos + 2) = o
      at hchoice hrefused hmissing
    cases hchoice with
    | refusal text => exact absurd rfl hrefused
    | nothing a ha => exact ⟨a.1, a.2.1, a.2.2, rfl, ha.1 ▸ rfl⟩
    | server a ti ha => exact ⟨a.1, a.2.1, a.2.2, rfl, ha.1 ▸ hmissing ti rfl⟩
  have hagain : (retryLoop fp u profiles sim).Reachable (.attempt 1 t.profileID found t sim') := by
    have hafter := TSys.Reachable.step hfirst (show (retryLoop fp u profiles sim).step _ _ _ from
      next_choose_ok hchoose)
    unfold Retry.after at hafter
    rw [if_pos haddress] at hafter
    exact hafter
  have hredraw : Retry.next u profiles rng (.attempt 1 t.profileID found t sim') =
      some (.redraw 2 t.profileID found t false sim') := next_attempt_exclude hid
  exact ⟨found, sim', .step hagain hredraw⟩

/-- Where all that can be drawn has the excluded id, the redraws go on for ever. -/
theorem redraw_trapped {u : InetUser} {profiles : List TrafficProfile} {sim₀ : Sim}
    (hne : profiles ≠ []) {exceptId : Int}
    (hids : ∀ t, Drawable fp profiles t → t.profileID = exceptId) {runs : Nat} {ti : TargetInfo}
    {tp : TrafficProfile} (hsame : tp.profileID = exceptId) {isForeign : Bool} {sim : Sim} :
    ¬ (retryLoop fp u profiles sim₀).CanReach Retry.Ended
      (.redraw runs exceptId ti tp isForeign sim) := by
  let redrawing : Retry → Prop := fun x => ∃ tp isForeign sim,
    x = .redraw runs exceptId ti tp isForeign sim ∧ tp.profileID = exceptId
  refine TSys.not_canReach_of_trap (I := redrawing) ?_ ?_ ⟨tp, isForeign, sim, rfl, hsame⟩
  · rintro x rng y ⟨tp, isForeign, sim, rfl, hsame⟩ hstep
    obtain ⟨t, hdrawable, hdraw⟩ := drawProfile_ok rng hne isForeign sim.pos
    change Retry.next u profiles rng (.redraw runs exceptId ti tp isForeign sim) = some y at hstep
    rw [next_redraw_draw hsame hdraw] at hstep
    cases hstep
    exact ⟨_, _, _, rfl, hids t hdrawable⟩
  · rintro x ⟨tp, isForeign, sim, rfl, -⟩
    exact id

theorem search_leavable_iff {hier : Hierarchy} {profiles : List TrafficProfile} {s : UserLife}
    (hs : (userLife fp hier profiles).Reachable s) (hne : profiles ≠ [])
    (managers : InService fp hier) :
    SearchLeavable fp s.user profiles managers.sim ↔ Escapable fp s.user profiles managers.sim := by
  have hprevious := userLife_previous s hs
  have hw := service_wellFormed hier _ managers.reachable
  constructor
  · intro h
    by_contra hno
    obtain ⟨hone, hno⟩ := not_or.mp hno
    obtain ⟨hid, hserved⟩ := not_or.mp hno
    push Not at hone hid hserved
    obtain ⟨t, hdrawable, hid⟩ := hid
    obtain ⟨t', hdrawable', hserved⟩ := hserved
    have hsame := hone t t' hdrawable hdrawable'
    obtain ⟨ti, sim', hreach⟩ := exists_redraw hprevious hw hdrawable' (hsame ▸ hid) hserved
    obtain ⟨x, hx, hother⟩ := (leavable_redraw_iff rfl).mp (h _ hreach).1
    exact hother (hone x t' hx hdrawable')
  · intro h
    have hleave : (retryLoop fp s.user profiles managers.sim).Invariant
        (Retry.Leavable fp profiles) := by
      rcases h with ⟨t, t', ht, ht', hne'⟩ | hids | hserved
      · intro x _
        refine leavable_of_drawable (fun exceptId => ?_) x
        -- one of the two is not excluded
        by_cases hexcluded : t.profileID = exceptId
        · exact ⟨t', ht', fun hboth => hne' (hexcluded.trans hboth.symm)⟩
        · exact ⟨t, ht, hexcluded⟩
      · intro x hx
        refine leavable_of_ne ?_
        rintro runs exceptId ti tp isForeign sim rfl
        exact unrestricted hne hprevious hids _ hx
      · intro x hx
        refine leavable_of_ne ?_
        rintro runs exceptId ti tp isForeign sim rfl
        exact first hne hprevious hw hserved _ hx
    intro x hx
    refine ⟨hleave x hx, ?_⟩
    have hattempt {runs : Nat} (exceptId : Int) (ti : TargetInfo) (tp : TrafficProfile) (sim : Sim)
        (h : (retryLoop fp s.user profiles managers.sim).Reachable
          (.attempt runs exceptId ti tp sim)) :=
      attempt_canEnd hne hleave 100 (by omega) h
    cases x with
    | attempt runs exceptId ti tp sim => exact hattempt exceptId ti tp sim hx
    | redraw runs exceptId ti tp isForeign sim => exact redraw_canEnd hleave hx fun _ => hattempt
    | choose runs ti tp isForeign sim => exact choose_canEnd hx fun _ => hattempt
    | left r => exact .here True.intro
    | failed e => exact .here True.intro

/-! ### A network with one server, for the profile 5 -/

def flatService : InService .exact twoAs := ⟨⟨flatManagers, 0⟩, reachable_flatManagers⟩

/-- A user, and a list with one profile, for which there is no server: the second attempt
can never draw another one, and the search has no end. -/
theorem search_stuck :
    (userLife .exact twoAs [{ profileID := 12 }]).Reachable { user := { cm := 0, id := 9 } } ∧
      ¬ SearchLeavable .exact { cm := 0, id := 9 } [{ profileID := 12 }] flatService.sim ∧
      ∃ x, (retryLoop .exact { cm := 0, id := 9 } [{ profileID := 12 }]
          flatService.sim).Reachable x ∧
        ¬ x.Leavable .exact [{ profileID := 12 }] ∧
        ¬ (retryLoop .exact { cm := 0, id := 9 } [{ profileID := 12 }] flatService.sim).CanReach
          Retry.Ended x := by
  have hids : ∀ t, Drawable .exact [{ profileID := 12 }] t → t.profileID = 12 := by
    rintro t ⟨i, -, hget⟩
    rw [List.mem_singleton.mp (List.mem_of_getElem? hget)]
  have hoffer : offer (zeroRng : Rng .exact) flatManagers 0 12
      (decideForeign { profileID := 12 } 0 false) 9 2 = .nothing := by decide +kernel
  have hserved : ¬ Served .exact { cm := 0, id := 9 } flatService.sim { profileID := 12 } := by
    intro h
    rcases h zeroRng 0 ⟨le_rfl, zero_lt_one⟩ with hrefused | ⟨ti, hserver, -⟩
    · cases hoffer.symm.trans hrefused
    · cases hoffer.symm.trans hserver
  have hdrawable : Drawable .exact [{ profileID := 12 }] { profileID := 12 } :=
    ⟨0, ⟨by decide, 0, ⟨le_rfl, zero_lt_one⟩, by decide, by decide⟩, rfl⟩
  obtain ⟨ti, sim', hreach⟩ := exists_redraw (u := { cm := 0, id := 9 }) rfl
    (service_wellFormed twoAs _ flatService.reachable) hdrawable (by decide) hserved
  have hstuck : ¬ (Retry.redraw 2 12 ti { profileID := 12 } false sim').Leavable
      .exact [{ profileID := 12 }] := by
    intro h
    obtain ⟨t, ht, hother⟩ := (leavable_redraw_iff rfl).mp h
    exact hother (hids t ht)
  exact ⟨.init ⟨0, 9, rfl⟩, fun h => hstuck (h _ hreach).1, _, hreach, hstuck,
    redraw_trapped (by decide) hids rfl⟩

def twoIds : List TrafficProfile :=
  [{ profileID := 12, probability := 1 / 2 }, { profileID := 5, probability := 1 / 2 }]

theorem selectable_twoIds : Selectable .exact twoIds 0 ∧ Selectable .exact twoIds 1 := by
  refine ⟨⟨by decide, 0, ⟨le_rfl, zero_lt_one⟩, ?_, fun _ => by decide +kernel⟩,
    ⟨by decide, 3 / 4, ⟨by decide +kernel, by decide +kernel⟩, ?_, fun h => absurd h (by decide)⟩⟩
  · exact fun j hj => absurd hj (Nat.not_lt_zero j)
  · intro j hj
    obtain rfl : j = 0 := by omega
    decide +kernel

/-- With a second profile in the list the first one can be left. -/
theorem search_leavable_twoIds :
    SearchLeavable .exact { cm := 0, id := 9 } twoIds flatService.sim :=
  (search_leavable_iff (s := { user := { cm := 0, id := 9 } }) (.init ⟨0, 9, rfl⟩) (by decide)
    flatService).mpr
    (.inl ⟨_, _, ⟨0, selectable_twoIds.1, rfl⟩, ⟨1, selectable_twoIds.2, rfl⟩, by decide⟩)

end ScadaSim.User
