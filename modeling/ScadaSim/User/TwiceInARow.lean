import Mathlib.Data.List.Chain
import ScadaSim.User.Leavable

/-!
# The same profile twice in a row

`transmissionDone()` hands `previousProfileId` to the first attempt as the id to leave
out, but the id of the profile in use is never put there: the first attempt leaves out
nothing, and a later one the id that the attempt before has drawn.
`always_changes_of_varied`: it takes a draw of the last profile, at a time when its id is
not left out, to use a profile twice in a row.
-/

namespace ScadaSim.User

open Lib Traffic

variable {fp : Doubles} {hier : Hierarchy} {profiles : List TrafficProfile}

/-- A transmission, and the one before it: another profile, unless the exclusion had been
lifted. -/
def Started.Changes (later earlier : Started) : Prop :=
  later.runs < 50 → later.profileID ≠ earlier.profileID

/-- No profile is used twice in a row. -/
def UserLife.Changes (s : UserLife) : Prop := s.started.IsChain Started.Changes

/-- A draw of a profile, in which run it is made, and the id that is left out. -/
structure Draw where
  runs : Nat
  excluded : Option Int
  tp : TrafficProfile

/-- The draw that a turn makes, if it makes one. -/
def Retry.draw (profiles : List TrafficProfile) (rng : Rng fp) : Retry → Option Draw
  | .attempt runs exceptId _ _ sim =>
      if (if runs + 1 = 50 then -1 else exceptId) = -1 then
        (drawProfile rng profiles false sim.pos).toOption.map fun drawn =>
          ⟨runs + 1, none, drawn.1⟩
      else none
  | .redraw runs exceptId _ tp isForeign sim =>
      if tp.profileID = exceptId then
        (drawProfile rng profiles isForeign sim.pos).toOption.map fun drawn =>
          ⟨runs, some exceptId, drawn.1⟩
      else none
  | _ => none

/-- Before the 50th run, the profile of the transmission before is not drawn, unless its id
is to be left out. -/
def Varied (profiles : List TrafficProfile) (s : UserLife) : UserAct fp hier → Prop
  | .turn rng => ∀ x ∈ s.search, ∀ d ∈ x.draw profiles rng, d.runs < 50 →
      ∀ last ∈ s.started.head?, d.tp.profileID = last.profileID →
        d.excluded = some last.profileID
  | _ => True

instance (profiles : List TrafficProfile) (s : UserLife) (a : UserAct fp hier) :
    Decidable (Varied profiles s a) :=
  match a with
  | .setApplication _ _ => .isTrue trivial
  | .transmissionDone _ _ => .isTrue trivial
  | .turn rng => inferInstanceAs (Decidable (∀ x ∈ s.search, ∀ d ∈ x.draw profiles rng, _ → _))

/-! ## One turn -/

/-- A transmission is started with the profile that the search has come to. -/
theorem begin_started {s s' : UserLife} {r : Request} (h : s.begin r = some s') :
    s'.search = none ∧ s'.started =
      if GET_APP_TYPE r.tp.profileID = .icmpApp ∨ r.ti.port > 0 then
        ⟨r.tp.profileID, r.runs⟩ :: s.started
      else s.started := by
  unfold UserLife.begin InetUser.startTransmission at h
  dsimp only at h
  cases htype : GET_APP_TYPE r.tp.profileID with
  | notSet =>
      rw [htype] at h
      cases h
  | icmpApp =>
      rw [htype] at h
      cases h
      exact ⟨rfl, (if_pos (.inl rfl)).symm⟩
  | udpApp =>
      rw [htype] at h
      cases h
      by_cases hport : r.ti.port > 0 <;> simp [hport]
  | tcpApp =>
      rw [htype] at h
      cases h
      by_cases hport : r.ti.port > 0 <;> simp [hport]

/-- The search is over, or goes on. -/
theorem turnTo_cases {s s' : UserLife} {y : Retry} (h : s.turnTo y = some s') :
    (∃ r, y = .left r ∧ s.begin r = some s') ∨ s' = { s with search := some y } := by
  cases y with
  | left r => exact .inl ⟨r, rfl, h⟩
  | attempt runs exceptId ti tp sim => exact .inr (Option.some.inj h).symm
  | redraw runs exceptId ti tp isForeign sim => exact .inr (Option.some.inj h).symm
  | choose runs ti tp isForeign sim => exact .inr (Option.some.inj h).symm
  | failed e => exact .inr (Option.some.inj h).symm

/-! ## What a search knows -/

/-- What holds of a search when the last transmission was one of the profile `last`. -/
def Retry.Avoids (last : Int) : Retry → Prop
  -- the first attempt leaves out nothing, a later one what has been drawn last
  | .attempt _ exceptId _ tp _ => exceptId = -1 ∨ exceptId = tp.profileID
  | .redraw runs exceptId _ tp _ _ => runs < 50 → tp.profileID = last → exceptId = last
  | .choose runs _ tp _ _ => runs < 50 → tp.profileID ≠ last
  | .left r => r.runs < 50 → r.tp.profileID ≠ last
  | .failed _ => True

theorem after_avoids {last : Int} {runs : Nat} {ti : TargetInfo} {tp : TrafficProfile} {sim : Sim}
    (h : runs < 50 → tp.profileID ≠ last) : (Retry.after runs ti tp sim).Avoids last := by
  unfold Retry.after
  split_ifs
  · exact .inr rfl
  · trivial
  · exact h

/-- A turn keeps to that, if what it draws is not the last profile, or is left out. -/
theorem next_avoids {u : InetUser} {rng : Rng fp} {last : Int} {x y : Retry} (hx : x.Avoids last)
    (hdraw : ∀ d ∈ x.draw profiles rng, d.runs < 50 → d.tp.profileID = last →
      d.excluded = some last)
    (hnext : x.next u profiles rng = some y) : y.Avoids last := by
  cases x with
  | attempt runs exceptId ti tp sim =>
      by_cases hfree : (if runs + 1 = 50 then -1 else exceptId) = -1
      · cases hdrawn : drawProfile rng profiles false sim.pos with
        | error e =>
            rw [Retry.next, if_pos hfree, hdrawn] at hnext
            cases hnext
            trivial
        | ok drawn =>
            rw [next_attempt_draw hfree hdrawn] at hnext
            cases hnext
            -- nothing is left out, so that the draw is of another profile
            intro hruns hsame
            have hmade : (⟨runs + 1, none, drawn.1⟩ : Draw) ∈
                (Retry.attempt runs exceptId ti tp sim).draw profiles rng := by
              rw [Retry.draw, if_pos hfree, hdrawn]
              rfl
            cases hdraw _ hmade hruns hsame
      · rw [next_attempt_exclude hfree] at hnext
        cases hnext
        intro hruns hsame
        rw [if_neg (by omega)] at hfree ⊢
        exact (hx.resolve_left hfree).trans hsame
  | redraw runs exceptId ti tp isForeign sim =>
      by_cases hsame : tp.profileID = exceptId
      · cases hdrawn : drawProfile rng profiles isForeign sim.pos with
        | error e =>
            rw [Retry.next, if_pos hsame, hdrawn] at hnext
            cases hnext
            trivial
        | ok drawn =>
            rw [next_redraw_draw hsame hdrawn] at hnext
            cases hnext
            intro hruns hlast
            have hmade : (⟨runs, some exceptId, drawn.1⟩ : Draw) ∈
                (Retry.redraw runs exceptId ti tp isForeign sim).draw profiles rng := by
              rw [Retry.draw, if_pos hsame, hdrawn]
              rfl
            exact Option.some.inj (hdraw _ hmade hruns hlast)
      · rw [next_redraw_keep hsame] at hnext
        cases hnext
        exact fun hruns hlast => hsame (hlast.trans (hx hruns hlast).symm)
  | choose runs ti tp isForeign sim =>
      cases hchoose : chooseServer rng u.cm ti tp.profileID isForeign u.id sim with
      | error e =>
          rw [next_choose_error hchoose] at hnext
          cases hnext
          trivial
      | ok chosen =>
          rw [next_choose_ok hchoose] at hnext
          cases hnext
          exact after_avoids hx
  | left r => cases hnext
  | failed e => cases hnext

/-! ## Every run -/

/-- The search avoids the profile that was used last. -/
def UserLife.Avoids (s : UserLife) : Prop :=
  ∀ x ∈ s.search, ∀ last ∈ s.started.head?, x.Avoids last.profileID

/-- What holds throughout. -/
structure UserLife.Varying (s : UserLife) : Prop where
  previous : s.user.previousProfileId = -1
  avoids : s.Avoids
  changes : s.Changes

theorem turnTo_varying {s s' : UserLife} {y : Retry} (hs : s.Varying)
    (hy : ∀ last ∈ s.started.head?, y.Avoids last.profileID) (hturn : s.turnTo y = some s') :
    s'.Avoids ∧ s'.Changes := by
  rcases turnTo_cases hturn with ⟨r, rfl, hbegin⟩ | rfl
  · obtain ⟨hsearch, hstarted⟩ := begin_started hbegin
    constructor
    · intro x hx
      rw [hsearch] at hx
      cases hx
    · unfold UserLife.Changes
      rw [hstarted]
      split
      · exact List.isChain_cons.mpr ⟨hy, hs.changes⟩
      · exact hs.changes
  · refine ⟨?_, hs.changes⟩
    intro x hx
    cases hx
    exact hy

theorem varying_step {s s' : UserLife} {a : UserAct fp hier} (hs : s.Varying)
    (hvaried : Varied profiles s a) (hstep : s.next profiles a = some s') : s'.Varying := by
  cases a with
  | setApplication a n =>
      obtain ⟨-, rfl⟩ := next_setApplication hstep
      exact ⟨(setApplication_previous _ _ _).trans hs.previous, hs.avoids, hs.changes⟩
  | transmissionDone t managers =>
      obtain ⟨-, -, rfl⟩ := next_transmissionDone hstep
      have hprevious : (t.elim s.user s.user.book).previousProfileId = -1 := by
        cases t with
        | none => exact hs.previous
        | some t => exact hs.previous
      refine ⟨hprevious, ?_, hs.changes⟩
      intro x hx last _
      cases hx
      exact .inl hprevious
  | turn rng =>
      obtain ⟨x, y, hx, hnext, hturn⟩ := next_turn hstep
      have hy : ∀ last ∈ s.started.head?, y.Avoids last.profileID := fun last hlast =>
        next_avoids (hs.avoids x hx last hlast)
          (fun d hd hruns hsame => hvaried x hx d hd hruns last hlast hsame) hnext
      obtain ⟨havoids, hchanges⟩ := turnTo_varying hs hy hturn
      exact ⟨(turnTo_previous hturn).trans hs.previous, havoids, hchanges⟩

/-- A run in which no profile is drawn while it is the last one used and not left out uses
no profile twice in a row. -/
theorem always_changes_of_varied {s : UserLife} (hs : (userLife fp hier profiles).init s)
    {tr : List (UserAct fp hier × UserLife)} (hrun : (userLife fp hier profiles).Run s tr)
    (hvaried : TSys.Guarded (Varied profiles) s tr) : TSys.Always UserLife.Changes s tr := by
  obtain ⟨cm, id, rfl⟩ := hs
  refine (hrun.always_of_guarded (I := UserLife.Varying)
    (fun _ _ _ hs hvaried hstep => varying_step hs hvaried hstep) hvaried ?_).mono
    fun _ h => h.changes
  refine ⟨rfl, ?_, List.IsChain.nil⟩
  intro x hx
  cases hx

/-! ### A network with servers for two of three profiles -/

def newUser : UserLife := { user := { cm := 0, id := 9 } }

/-- A flat network with servers for the profiles 5 and 21. -/
def twoServers : Managers :=
  startup twoAs [.registerConnectionManager 0 0, .registerServer 0 7 80 5 (-1),
    .registerServer 0 8 80 21 (-1)]

def twoServersService : InService .exact twoAs :=
  ⟨⟨twoServers, 0⟩, .step (a := .registration (.registerServer 0 8 80 21 (-1)))
    (.step (a := .registration (.registerServer 0 7 80 5 (-1)))
      (.step (a := .registration (.registerConnectionManager 0 0)) (.init rfl) rfl) rfl) rfl⟩

def threeIds : List TrafficProfile :=
  [{ profileID := 5, probability := 1 / 3 }, { profileID := 12, probability := 1 / 3 },
    { profileID := 21, probability := 1 / 3 }]

theorem drawn_sixths : ∀ i : Fin 3, Doubles.exact.drawn (i / 3 + 1 / 6) := by decide +kernel

/-- Draws the profile at `i`. -/
def drawsProfile (i : Fin 3) : Rng .exact := pairRng 0 _ _ (drawn_sixths i) (drawn_sixths i)

/-- The first transmission is one of the profile 5. For the second one the profile 12 is
drawn, which has no server, and left out when it is drawn again. -/
def secondSearch : List (UserAct .exact twoAs) :=
  [.setApplication .tcpApp 0, .transmissionDone none twoServersService, .turn (drawsProfile 0),
    .turn (drawsProfile 0), .transmissionDone (some {}) twoServersService, .turn (drawsProfile 1),
    .turn (drawsProfile 1), .turn (drawsProfile 1), .turn (drawsProfile 1), .turn (drawsProfile 2),
    .turn (drawsProfile 2), .turn (drawsProfile 2)]

theorem changes_secondSearch :
    ((TSys.finish newUser (TSys.trace (UserLife.next threeIds) newUser secondSearch)).started.map
        fun t => (t.profileID, t.runs)) = [(21, 2), (5, 1)] ∧
      TSys.Always UserLife.Changes newUser
        (TSys.trace (UserLife.next threeIds) newUser secondSearch) :=
  ⟨by decide +kernel,
    always_changes_of_varied ⟨0, 9, rfl⟩ (TSys.run_trace (fun _ _ _ h => h) newUser secondSearch)
      (by decide +kernel)⟩

/-! ### A network with one server, for the profile 5 -/

/-- A user with a TCP application is woken up, and called again when its first transmission
is done; the first attempt finds a server each time. -/
def secondCall : List (UserAct .exact twoAs) :=
  [.setApplication .tcpApp 0, .transmissionDone none flatService, .turn lastRng, .turn lastRng,
    .transmissionDone (some {}) flatService, .turn lastRng, .turn lastRng]

def fiveFirst : List TrafficProfile :=
  [{ profileID := 5, probability := 1 / 2 }, { profileID := 12, probability := 1 / 2 }]

theorem run_secondCall : (userLife .exact twoAs fiveFirst).Run newUser
    (TSys.trace (UserLife.next fiveFirst) newUser secondCall) :=
  TSys.run_trace (fun _ _ _ h => h) newUser secondCall

theorem not_changes_of_repeat {s : UserLife}
    (h : (s.started.map fun t => (t.profileID, t.runs)) = [(5, 1), (5, 1)]) : ¬ s.Changes := by
  intro hchanges
  unfold UserLife.Changes at hchanges
  obtain ⟨a, rest, hlist, ha, hrest⟩ := List.map_eq_cons_iff.mp h
  obtain ⟨b, rest', hrest', hb, -⟩ := List.map_eq_cons_iff.mp hrest
  obtain ⟨hida, hruns⟩ := Prod.mk.inj ha
  obtain ⟨hidb, -⟩ := Prod.mk.inj hb
  rw [hlist, hrest'] at hchanges
  exact (List.isChain_cons_cons.mp hchanges).1 (by omega) (hida.trans hidb.symm)

theorem started_secondCall : ((TSys.finish newUser
    (TSys.trace (UserLife.next fiveFirst) newUser secondCall)).started.map
      fun t => (t.profileID, t.runs)) = [(5, 1), (5, 1)] := by decide +kernel

theorem same_profile_twice :
    (userLife .exact twoAs fiveFirst).init newUser ∧
      (userLife .exact twoAs fiveFirst).Run newUser
        (TSys.trace (UserLife.next fiveFirst) newUser secondCall) ∧
      ¬ TSys.Always UserLife.Changes newUser
        (TSys.trace (UserLife.next fiveFirst) newUser secondCall) :=
  ⟨⟨0, 9, rfl⟩, run_secondCall, fun h => not_changes_of_repeat started_secondCall h.last⟩

end ScadaSim.User
