import ScadaSim.UdpApp.ClientSteps
import ScadaSim.User.Carriers

/-!
# The life of a client thread

`Watched` stands beside an application and counts what concerns the thread of one
transmission. Its course has two stages, `Alive` and `Gone`: in the first the callbacks
say where it stands, in the second nothing happens to it. `lifeCycle_invariant` draws the
consequences for whole runs.
-/

namespace ScadaSim.UdpApp

open Lib Traffic

variable {U : UDPSocket}

namespace GenericUDPApplication

/-! ## The thread of a transmission -/

/-- The transmission that the thread at `p` carries. -/
def carried (app : GenericUDPApplication U) (p : ThreadPtr) : Option Nat :=
  (app.threads.lookup p).bind Thread.transmission

theorem carried_eq_some {app : GenericUDPApplication U} {p : ThreadPtr} {n : Nat} :
    app.carried p = some n ↔ app.Carries p n := Option.bind_eq_some_iff

/-- The thread is the one that carries transmission `n`. -/
def isOf (app : GenericUDPApplication U) (n : Nat) (p : Option ThreadPtr) : Bool :=
  p.any fun p => app.carried p = some n

theorem isOf_iff {app : GenericUDPApplication U} {n : Nat} {p : Option ThreadPtr} :
    app.isOf n p = true ↔ ∃ q, p = some q ∧ app.Carries q n := by
  cases p <;> simp [isOf, carried_eq_some]

/-- Some thread carries transmission `n`. -/
def alive (app : GenericUDPApplication U) (n : Nat) : Bool :=
  app.threads.entries.any fun x => Thread.transmission x.2 = some n

theorem alive_iff {app : GenericUDPApplication U} {n : Nat} :
    app.alive n = true ↔ ∃ p, app.Carries p n := by
  unfold alive
  rw [List.any_eq_true]
  constructor
  · rintro ⟨x, hx, hn⟩
    exact ⟨x.1, x.2, AList.mem_lookup_iff.mpr hx, by simpa using hn⟩
  · rintro ⟨p, t, ht, hn⟩
    exact ⟨⟨p, t⟩, AList.mem_lookup_iff.mp ht, by simpa using hn⟩

/-- A step gives transmission `n` to no thread, and reports it only when its thread goes. -/
structure OnlyLoses (app : GenericUDPApplication U) (n : Nat) (e : Effect U) : Prop where
  kept : ∀ p, e.app.Carries p n → app.Carries p n
  report : ∀ stat, e.report = some (n, stat) → ∃ p, app.Carries p n ∧ ∀ m, ¬ e.app.Carries p m

theorem apply_onlyLoses (app : GenericUDPApplication U) {n : Nat} {a : Action}
    (hstart : a.starts ≠ some n) : Post (app.OnlyLoses n) (app.apply a) := by
  have hworked (hexternal : a.external = true) : Post (app.OnlyLoses n) (app.apply a) := by
    refine (app.apply_worked hexternal).mono fun e he => ?_
    refine ⟨fun p => he.carries.kept p n, fun stat hstat => he.carries.out n ?_⟩
    rw [hstat]
    rfl
  cases a with
  | timer p draws => exact hworked rfl
  | error ctrl => exact hworked rfl
  | message ctrl appmsg draws sockId q => exact hworked rfl
  | transmissionStart p i transmission draws sockId q =>
      refine (app.transmissionStart_carries p i transmission draws sockId q).bind ?_
      rintro app' ⟨-, h⟩
      refine ⟨fun x hx => ?_, nofun⟩
      rcases h x n hx with hold | ⟨-, heq⟩
      · exact hold
      · exact absurd (congrArg some heq.symm) hstart
  | removeThread p =>
      refine (app.removeThread_carries p).bind ?_
      rintro app' ⟨-, h, -⟩
      exact ⟨fun x hx => h x n hx, nofun⟩

/-- The thread of a transmission that is started, before its first request. -/
theorem transmissionStart_thread (app : GenericUDPApplication U) (prof : TrafficProfile)
    (i : TargetInfo) (n : Nat) (draws : Nat → Draw) (sockId : Int) (q : ThreadPtr) :
    Post (fun app' => ∃ c : ClientThread U, app'.threads.lookup q = some (.client c) ∧
      c.transmission = n ∧ c.selfMsg = true ∧ c.threadState = .connected ∧
      c.noRequestsToSend = prof.getRequestsPerSession true (draws 0))
      (app.transmissionStart prof i n draws sockId q) := by
  unfold transmissionStart
  split
  · exact Post.error _
  · refine Post.bind_any fun bound => ?_
    refine Ensures.bind (P := fun c : ClientThread U => c.transmission = n ∧ c.selfMsg = true ∧
      c.threadState = .connected ∧
      c.noRequestsToSend = prof.getRequestsPerSession true (draws 0)) ?_ fun c hc => ?_
    · unfold ClientThread.init
      refine Post.bind_any fun socket => ?_
      exact (scheduleAt_set _ _).bind fun selfMsg hself => ⟨rfl, hself, rfl, rfl⟩
    · exact ⟨c, AList.lookup_insert _, hc⟩

end GenericUDPApplication

/-! ## Runs -/

/-- An application, and what has happened to the thread of one transmission since its
start: how often its timer has expired, how many requests it has sent, how often it was
removed and reported, and whether nothing but its timer has driven it. -/
structure Watched (U : UDPSocket) where
  app : GenericUDPApplication U
  expiries : Nat := 0
  requests : Nat := 0
  removals : Nat := 0
  reports : Nat := 0
  undisturbed : Bool := true

namespace Watched

def after (w : Watched U) (n : Nat) (a : Action) (e : Effect U) : Watched U where
  app := e.app
  expiries := w.expiries + (w.app.isOf n a.timerOf).toNat
  requests := w.requests + (w.app.isOf n a.timerOf && e.sent.isRequest).toNat
  removals := w.removals + (w.app.alive n && !e.app.alive n).toNat
  reports := w.reports + (e.report.any fun report => report.1 = n).toNat
  undisturbed := w.undisturbed && !w.app.isOf n (w.app.addressee a)

end Watched

/-- Transmission `n` has just been started, with `N` requests in its session; no other
transmission has its number. -/
def watched (U : UDPSocket) (n : Nat) (N : Int) : TSys (Watched U) Action where
  init := fun w => ∃ (app : GenericUDPApplication U) (p : TrafficProfile) (i : TargetInfo)
    (draws : Nat → Draw) (sockId : Int) (q : ThreadPtr), app.Fresh sockId q ∧
      (∀ x, ¬ app.Carries x n) ∧ p.getRequestsPerSession true (draws 0) = N ∧
      ∃ app', app.transmissionStart p i n draws sockId q = .ok app' ∧ w = { app := app' }
  step := fun w a w' => a.starts ≠ some n ∧ w.app.Enabled a ∧
    ∃ e, w.app.apply a = .ok e ∧ w' = w.after n a e

/-- What a thread with `N` requests in its session does until it is removed. -/
structure LifeCycle (n : Nat) (N : Int) (w : Watched U) : Prop where
  schedules : ∀ a, w.app.apply a ≠ .error .alreadyScheduled
  requests : (w.requests : Int) ≤ max 1 N
  driven : w.undisturbed = true → (w.requests : Int) = min (w.expiries : Int) (max 1 N) ∧
    (w.app.alive n = true ↔ (w.expiries : Int) < max 1 N + 2)
  pending : ∀ p t, w.app.threads.lookup p = some t → t.transmission = some n → t.selfMsg = true
  removals : w.removals = if w.app.alive n then 0 else 1
  reports : w.reports ≤ w.removals

/-! ### The invariant -/

/-- The thread is there, at `p`. -/
structure Alive (n : Nat) (N : Int) (w : Watched U) (p : ThreadPtr) (c : ClientThread U) : Prop where
  thread : w.app.threads.lookup p = some (.client c)
  transmission : c.transmission = n
  only : ∀ q, w.app.Carries q n → q = p
  selfMsg : c.selfMsg = true
  stands : c.Stands N w.requests
  driven : w.undisturbed = true → c.Driven N w.requests w.expiries
  removals : w.removals = 0
  reports : w.reports = 0

/-- The thread was removed. -/
structure Gone (n : Nat) (N : Int) (w : Watched U) : Prop where
  thread : ∀ q, ¬ w.app.Carries q n
  requests : (w.requests : Int) ≤ max 1 N
  driven : w.undisturbed = true →
    (w.requests : Int) = max 1 N ∧ (w.expiries : Int) = max 1 N + 2
  removals : w.removals = 1
  reports : w.reports ≤ 1

def Course (n : Nat) (N : Int) (w : Watched U) : Prop :=
  (∃ p c, Alive n N w p c) ∨ Gone n N w

section Course

variable {n : Nat} {N : Int} {w : Watched U} {p : ThreadPtr} {c : ClientThread U} {a : Action}
  {e : Effect U}

theorem Alive.carries (h : Alive n N w p c) : w.app.Carries p n :=
  ⟨_, h.thread, congrArg some h.transmission⟩

theorem Alive.alive (h : Alive n N w p c) : w.app.alive n = true :=
  GenericUDPApplication.alive_iff.mpr ⟨p, h.carries⟩

theorem Gone.alive (h : Gone n N w) : w.app.alive n = false := by
  rw [← Bool.not_eq_true, GenericUDPApplication.alive_iff]
  rintro ⟨q, hq⟩
  exact h.thread q hq

theorem Alive.isOf (h : Alive n N w p c) (q : Option ThreadPtr) :
    w.app.isOf n q = decide (q = some p) := by
  by_cases hq : q = some p
  · subst hq
    rw [GenericUDPApplication.isOf_iff.mpr ⟨p, rfl, h.carries⟩]
    simp
  · rw [decide_eq_false hq, ← Bool.not_eq_true, GenericUDPApplication.isOf_iff]
    rintro ⟨q', rfl, hcarries⟩
    exact hq (congrArg some (h.only q' hcarries))

theorem Gone.isOf (h : Gone n N w) (q : Option ThreadPtr) : w.app.isOf n q = false := by
  rw [← Bool.not_eq_true, GenericUDPApplication.isOf_iff]
  rintro ⟨q', -, hcarries⟩
  exact h.thread q' hcarries

theorem not_reported (hloses : w.app.OnlyLoses n e)
    (hstays : ∀ q, w.app.Carries q n → ∃ m, e.app.Carries q m) :
    (e.report.any fun report => report.1 = n) = false := by
  cases hr : e.report with
  | none => rfl
  | some report =>
      rw [Option.any_some, decide_eq_false_iff_not]
      rintro rfl
      obtain ⟨q, hq, hgone⟩ := hloses.report report.2 (by rw [hr])
      obtain ⟨m, hm⟩ := hstays q hq
      exact hgone m hm

/-- Without a thread nothing happens to it. -/
theorem Gone.step (h : Gone n N w) (hloses : w.app.OnlyLoses n e) :
    Gone n N (w.after n a e) := by
  have hnone := not_reported hloses fun q hq => absurd hq (h.thread q)
  refine ⟨fun q hq => h.thread q (hloses.kept q hq), ?_, ?_, ?_, ?_⟩
  · show ((w.requests + _ : Nat) : Int) ≤ _
    rw [h.isOf]
    exact h.requests
  · show (w.undisturbed && !w.app.isOf n _) = true →
      ((w.requests + _ : Nat) : Int) = _ ∧ ((w.expiries + _ : Nat) : Int) = _
    rw [h.isOf, h.isOf]
    simpa using h.driven
  · show w.removals + _ = 1
    rw [h.alive, h.removals]
    rfl
  · show w.reports + _ ≤ 1
    rw [hnone]
    exact h.reports

/-- The thread is removed, with at most one report. -/
theorem Alive.remove (h : Alive n N w p c) (hloses : w.app.OnlyLoses n e)
    (hgone : e.app.threads.lookup p = none)
    (hsent : (w.app.isOf n a.timerOf && e.sent.isRequest) = false)
    (hdriven : (w.after n a e).undisturbed = true →
      (w.requests : Int) = max 1 N ∧ ((w.after n a e).expiries : Int) = max 1 N + 2) :
    Gone n N (w.after n a e) := by
  have hthread : ∀ q, ¬ e.app.Carries q n := by
    intro q hq
    obtain rfl := h.only q (hloses.kept q hq)
    obtain ⟨t, ht, -⟩ := hq
    rw [hgone] at ht
    cases ht
  have hdead : e.app.alive n = false := by
    rw [← Bool.not_eq_true, GenericUDPApplication.alive_iff]
    rintro ⟨q, hq⟩
    exact hthread q hq
  have hrequests : (w.after n a e).requests = w.requests := by
    show w.requests + _ = _
    rw [hsent]
    rfl
  refine ⟨hthread, ?_, ?_, ?_, ?_⟩
  · rw [hrequests]
    exact h.stands.le
  · rw [hrequests]
    exact hdriven
  · show w.removals + _ = 1
    rw [h.alive, hdead, h.removals]
    rfl
  · show w.reports + _ ≤ 1
    rw [h.reports, Nat.zero_add]
    exact Bool.toNat_le _

/-- The thread goes on, as `c'`. -/
theorem Alive.goOn (h : Alive n N w p c) (hloses : w.app.OnlyLoses n e) {c' : ClientThread U}
    (hthread : e.app.threads.lookup p = some (.client c'))
    (htrans : c'.transmission = c.transmission)
    (hself : c'.selfMsg = true) (hstands : c'.Stands N (w.after n a e).requests)
    (hdriven : (w.after n a e).undisturbed = true →
      c'.Driven N (w.after n a e).requests (w.after n a e).expiries) :
    Alive n N (w.after n a e) p c' := by
  have hcarries : e.app.Carries p n := ⟨_, hthread, congrArg some (htrans.trans h.transmission)⟩
  have hnone := not_reported hloses fun q hq => ⟨n, h.only q hq ▸ hcarries⟩
  refine ⟨hthread, htrans.trans h.transmission, fun q hq => h.only q (hloses.kept q hq), hself,
    hstands, hdriven, ?_, ?_⟩
  · have halive : e.app.alive n = true := GenericUDPApplication.alive_iff.mpr ⟨p, hcarries⟩
    show w.removals + _ = 0
    rw [h.removals, halive]
    simp
  · show w.reports + _ = 0
    rw [h.reports, hnone]
    rfl

/-- The timer of the thread is counted. -/
theorem Alive.isOf_own (h : Alive n N w p c) (draws : Nat → Draw) :
    w.app.isOf n (Action.timer p draws).timerOf = true := by
  rw [h.isOf]
  exact decide_eq_true rfl

/-- What is not its timer leaves the counters alone. -/
theorem Alive.after_other (h : Alive n N w p c) (htimer : a.timerOf ≠ some p) :
    w.app.isOf n a.timerOf = false ∧ (w.after n a e).requests = w.requests ∧
      (w.after n a e).expiries = w.expiries := by
  have hother : w.app.isOf n a.timerOf = false := by
    rw [h.isOf]
    exact decide_eq_false htimer
  refine ⟨hother, ?_, ?_⟩
  · show w.requests + _ = w.requests
    rw [hother]
    rfl
  · show w.expiries + _ = w.expiries
    rw [hother]
    rfl

/-- Not only its timer has driven it, then. -/
theorem Alive.disturbed (h : Alive n N w p c) (haddressee : w.app.addressee a = some p) :
    (w.after n a e).undisturbed ≠ true := by
  show (w.undisturbed && !w.app.isOf n (w.app.addressee a)) ≠ true
  rw [h.isOf, haddressee, decide_eq_true rfl]
  simp

/-- Its timer expires, and it goes on: a request more, or the end of the session. -/
theorem Alive.expired (hN : -2147483648 < N) (hN' : N < 2147483648) (h : Alive n N w p c)
    {draws : Nat → Draw} (hloses : w.app.OnlyLoses n e) {r : Reaction (ClientThread U)}
    (hr : ClientThread.timerExpired { c with selfMsg := false } draws = .ok r)
    (hremoval : r.removal = .none) (hthread : e.app.threads.lookup p = some (.client r.thread))
    (hsent : e.sent.isRequest = decide (c.threadState = .connected)) :
    Alive n N (w.after n (.timer p draws) e) p r.thread := by
  have hmine := h.isOf_own draws
  have htrans : r.thread.transmission = c.transmission :=
    ((ClientThread.timerExpired_same _ draws).of_ok hr).transmission
  have hexpiries : (w.after n (.timer p draws) e).expiries = w.expiries + 1 := by
    show w.expiries + _ = _
    rw [hmine]
    rfl
  have hrequests : (w.after n (.timer p draws) e).requests =
      w.requests + (decide (c.threadState = .connected)).toNat := by
    show w.requests + _ = _
    rw [hmine, hsent, Bool.true_and]
  have hundisturbed (hu : (w.after n (.timer p draws) e).undisturbed = true) :
      w.undisturbed = true := (Bool.and_eq_true_iff.mp hu).1
  rcases (ClientThread.timerExpired_cases _ draws).of_ok hr with
    ⟨hstate, -, hself, hleft, hstate'⟩ | ⟨hstate, -, hself, hstate'⟩ | ⟨-, stat, hremoval'⟩
  · replace hstate : c.threadState = .connected := hstate
    obtain ⟨hstands, hopen⟩ := h.stands.request hN hN' hstate hleft hstate'
    rw [hstate] at hrequests
    refine h.goOn hloses hthread htrans hself (hrequests ▸ hstands) fun hu => ?_
    have hdriven := h.driven (hundisturbed hu)
    rw [hrequests, hexpiries]
    unfold ClientThread.Driven at hdriven ⊢
    rw [hstate] at hdriven
    cases hafter : r.thread.threadState with
    | finish => exact absurd hafter hopen
    | connected => exact congrArg (· + 1) hdriven
    | disconnected => exact congrArg (· + 1) hdriven
  · replace hstate : c.threadState = .disconnected := hstate
    have hstands := h.stands
    unfold ClientThread.Stands at hstands
    rw [hstate] at hstands hrequests
    refine h.goOn hloses hthread htrans hself ?_ fun hu => ?_
    · rw [hrequests]
      unfold ClientThread.Stands
      rw [hstate']
      exact le_of_eq hstands
    · have hdriven := h.driven (hundisturbed hu)
      rw [hrequests, hexpiries]
      unfold ClientThread.Driven at hdriven ⊢
      rw [hstate] at hdriven
      rw [hstate']
      exact ⟨hstands, congrArg (· + 1) hdriven⟩
  · rw [hremoval] at hremoval'
    cases hremoval'

/-- Its timer expires for the last time. -/
theorem Alive.ended (h : Alive n N w p c) {draws : Nat → Draw} (hloses : w.app.OnlyLoses n e)
    (hstate : c.threadState = .finish)
    (hgone : e.app.threads.lookup p = none) (hsent : e.sent.isRequest = false) :
    Gone n N (w.after n (.timer p draws) e) := by
  refine h.remove hloses hgone (by rw [hsent, Bool.and_false]) fun hu => ?_
  have hdriven := h.driven (Bool.and_eq_true_iff.mp hu).1
  unfold ClientThread.Driven at hdriven
  rw [hstate] at hdriven
  refine ⟨hdriven.1, ?_⟩
  show ((w.expiries + _ : Nat) : Int) = _
  rw [h.isOf_own draws]
  show ((w.expiries + 1 : Nat) : Int) = _
  push_cast
  omega

/-- A last message pulls it to its end, or leaves it as it is. -/
theorem Alive.last (h : Alive n N w p c) {draws : Nat → Draw} {c' : ClientThread U}
    (hloses : w.app.OnlyLoses n e) (htimer : a.timerOf ≠ some p)
    (haddressee : w.app.addressee a = some p) (harrived : c.socketDatagramArrived draws = .ok c')
    (hthread : e.app.threads.lookup p = some (.client c')) : Alive n N (w.after n a e) p c' := by
  obtain ⟨-, hrequests, -⟩ := h.after_other (e := e) htimer
  have htrans := ((c.socketDatagramArrived_same draws).of_ok harrived).transmission
  have hcases := (c.socketDatagramArrived_cases draws).of_ok harrived
  refine h.goOn hloses hthread htrans ?_ ?_ fun hu => absurd hu (h.disturbed haddressee)
  · rcases hcases with rfl | ⟨-, hself⟩
    · exact h.selfMsg
    · exact hself
  · rw [hrequests]
    rcases hcases with rfl | ⟨hfinish, -⟩
    · exact h.stands
    · unfold ClientThread.Stands
      rw [hfinish]
      exact h.stands.le

/-- What a step does to the thread, and what becomes of the counters. -/
theorem Alive.step (hN : -2147483648 < N) (hN' : N < 2147483648) (h : Alive n N w p c)
    (hloses : w.app.OnlyLoses n e) (htouched : w.app.Touched p c a e) :
    Course n N (w.after n a e) := by
  cases htouched with
  | expired hr hremoval hthread hsent =>
      exact .inl ⟨p, _, h.expired hN hN' hloses hr hremoval hthread hsent⟩
  | ended hstate hgone hsent => exact .inr (h.ended hloses hstate hgone hsent)
  | last htimer haddressee harrived hthread =>
      exact .inl ⟨p, _, h.last hloses htimer haddressee harrived hthread⟩
  | removed htimer haddressee hgone =>
      obtain ⟨hother, -⟩ := h.after_other (e := e) htimer
      refine .inr (h.remove hloses hgone (by rw [hother, Bool.false_and]) fun hu => ?_)
      exact absurd hu (h.disturbed haddressee)
  | untouched htimer hsame =>
      obtain ⟨-, hrequests, hexpiries⟩ := h.after_other (e := e) htimer
      refine .inl ⟨p, c, h.goOn hloses (hsame.trans h.thread) rfl h.selfMsg ?_ fun hu => ?_⟩
      · rw [hrequests]
        exact h.stands
      · rw [hrequests, hexpiries]
        exact h.driven (Bool.and_eq_true_iff.mp hu).1

theorem Course.step (hN : -2147483648 < N) (hN' : N < 2147483648) (h : Course n N w)
    {w' : Watched U} (hstep : (watched U n N).step w a w') : Course n N w' := by
  obtain ⟨hstart, ha, e, hok, rfl⟩ := hstep
  have hloses := (w.app.apply_onlyLoses hstart).of_ok hok
  rcases h with ⟨p, c, h⟩ | h
  · exact h.step hN hN' hloses
      ((GenericUDPApplication.apply_touched h.thread ha).of_ok hok)
  · exact .inr (h.step hloses)

/-- The thread of a transmission that has just been started. -/
theorem Course.init (hinit : (watched U n N).init w) : Course n N w ∧ N < 2147483648 := by
  obtain ⟨app, prof, i, draws, sockId, q, -, hnone, hsession, app', hok, rfl⟩ := hinit
  have hrange : N < 2147483648 := by
    rw [← hsession]
    show int32 _ < _
    unfold int32
    omega
  obtain ⟨-, hcarries⟩ := (app.transmissionStart_carries prof i n draws sockId q).of_ok hok
  refine ⟨.inl ⟨q, ?_⟩, hrange⟩
  obtain ⟨c, hthread, htrans, hself, hstate, hleft⟩ :=
    (app.transmissionStart_thread prof i n draws sockId q).of_ok hok
  refine ⟨c, hthread, htrans, ?_, hself, ?_, fun _ => ?_, rfl, rfl⟩
  · intro x hx
    rcases hcarries x n hx with hold | ⟨heq, -⟩
    · exact absurd hold (hnone x)
    · exact heq
  · unfold ClientThread.Stands
    rw [hstate]
    refine ⟨?_, .inl rfl⟩
    rw [hleft, hsession]
    simp
  · unfold ClientThread.Driven
    rw [hstate]

theorem Course.lifeCycle (h : Course n N w) : LifeCycle n N w := by
  have hschedules : ∀ a, w.app.apply a ≠ .error .alreadyScheduled := by
    intro a heq
    have hnot := w.app.apply_notTwice a
    rw [heq] at hnot
    exact hnot rfl
  rcases h with ⟨p, c, h⟩ | h
  · refine ⟨hschedules, h.stands.le, fun hu => ?_, ?_, ?_, ?_⟩
    · obtain ⟨hmin, hlt⟩ := (h.driven hu).eq_min h.stands
      exact ⟨hmin, iff_of_true h.alive hlt⟩
    · intro q t ht hn
      obtain rfl := h.only q ⟨t, ht, hn⟩
      rw [h.thread] at ht
      cases ht
      exact h.selfMsg
    · rw [h.alive]
      exact h.removals
    · rw [h.reports]
      exact Nat.zero_le _
  · refine ⟨hschedules, h.requests, fun hu => ?_, ?_, ?_, ?_⟩
    · obtain ⟨hrequests, hexpiries⟩ := h.driven hu
      rw [h.alive]
      refine ⟨by omega, iff_of_false Bool.false_ne_true (by omega)⟩
    · exact fun q t ht hn => absurd ⟨t, ht, hn⟩ (h.thread q)
    · rw [h.alive]
      exact h.removals
    · rw [h.removals]
      exact h.reports

end Course

/-- A client thread keeps to its life cycle, whatever happens to its application. -/
theorem lifeCycle_invariant {n : Nat} {N : Int} (hN : -2147483648 < N) :
    (watched U n N).Invariant (LifeCycle n N) := by
  have hcourse : (watched U n N).Inductive fun w => Course n N w ∧ N < 2147483648 :=
    { init := fun _ hinit => Course.init hinit
      step := fun _ _ _ h hstep => ⟨h.1.step hN h.2 hstep, h.2⟩ }
  exact fun w hw => (hcourse.invariant w hw).1.lifeCycle

/-! ### A transmission of two requests -/

/-- The state after an action that is possible and succeeds. -/
def Watched.next (n : Nat) (w : Watched U) (a : Action) : Option (Watched U) :=
  if a.starts ≠ some n ∧ w.app.Enabled a then
    match w.app.apply a with
    | .ok e => some (w.after n a e)
    | .error _ => none
  else none

theorem Watched.next_step {n : Nat} {N : Int} {w w' : Watched U} {a : Action}
    (h : w.next n a = some w') : (watched U n N).step w a w' := by
  unfold next at h
  split at h
  · rename_i ha
    split at h
    · rename_i e he
      exact ⟨ha.1, ha.2, e, he, (Option.some.inj h).symm⟩
    · cases h
  · cases h

/-- A client application that has just been initialized. -/
def idleClient : GenericUDPApplication inetSocket :=
  ⟨false, 80, INT_MAX, 0, ⟨0, ⟨true, false⟩⟩, ∅, ∅⟩

def twoRequestProfile : TrafficProfile := { requestsPerSession := 2 }

/-- The transmission has been started. -/
def startedClient : GenericUDPApplication inetSocket :=
  match idleClient.transmissionStart twoRequestProfile ⟨7, 80⟩ 0 (fun _ => ⟨0, 100, 1⟩) 1 0 with
  | .ok app => app
  | .error _ => idleClient

theorem startedClient_init : (watched inetSocket 0 2).init { app := startedClient } := by
  have hdelay : scheduleAt false SELF_CALL_DELAY = .ok true := by decide +kernel
  have hstart : ∃ app', idleClient.transmissionStart twoRequestProfile ⟨7, 80⟩ 0
      (fun _ => ⟨0, 100, 1⟩) 1 0 = .ok app' := by
    unfold GenericUDPApplication.transmissionStart ClientThread.init
    rw [hdelay]
    exact ⟨_, rfl⟩
  obtain ⟨app', hok⟩ := hstart
  have hfresh : idleClient.Fresh 1 0 := by decide
  have hnone : ∀ x, ¬ idleClient.Carries x 0 := by
    rintro x ⟨t, ht, -⟩
    cases ht
  refine ⟨idleClient, twoRequestProfile, ⟨7, 80⟩, _, 1, 0, hfresh, hnone, by decide, app', hok, ?_⟩
  unfold startedClient
  rw [hok]

/-- Two requests go out, the last message comes, and the timer ends the thread. -/
def twoRequestRun : List (Action × Watched inetSocket) :=
  TSys.trace (Watched.next 0) { app := startedClient }
    [.timer 0 fun _ => ⟨0, 100, 1⟩, .timer 0 fun _ => ⟨0, 100, 1⟩,
      .message (some ⟨1, 7, 80, 5000⟩)
        (some { byteLength := 100, replyLength := 100, replyPerRequest := 1, timeToRespond := 1,
                last := true, packetNumber := 2 })
        (fun _ => ⟨0, 100, 1⟩) 2 1,
      .timer 0 fun _ => ⟨0, 100, 1⟩]

theorem lifeCycle_twoRequestRun :
    TSys.Always (LifeCycle 0 2) { app := startedClient } twoRequestRun := by
  have hrun : (watched inetSocket 0 2).Run { app := startedClient } twoRequestRun :=
    TSys.run_trace (fun _ _ _ => Watched.next_step) _ _
  exact (hrun.reachable (.init startedClient_init)).mono (lifeCycle_invariant (by decide))

/-- The thread has sent both, and is removed and reported once. -/
example : twoRequestRun.map (fun step => (step.2.expiries, step.2.requests, step.2.removals,
    step.2.reports)) = [(1, 1, 0, 0), (2, 2, 0, 0), (2, 2, 0, 0), (3, 2, 1, 1)] := by
  decide +kernel

end ScadaSim.UdpApp
