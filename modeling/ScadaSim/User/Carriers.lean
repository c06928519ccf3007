import ScadaSim.Lib.Custody
import ScadaSim.PingApp.Application
import ScadaSim.TcpApp.ThreadTable
import ScadaSim.UdpApp.ThreadTable

/-!
# The applications as carriers

An application carries the transmissions that its user has started in it: in its
client threads, or in the ping application itself. Whatever comes from below, a
client application takes up no transmission by itself, and it reports only what it
has carried and has just given up: `Worked`.
-/

namespace ScadaSim

open Lib Traffic

/-! ## UDP -/

namespace UdpApp

/-- What reaches an application from the kernel; the rest comes from its user. -/
def Action.external : Action → Bool
  | .timer .. | .error .. | .message .. => true
  | .transmissionStart .. | .removeThread .. => false

namespace GenericUDPApplication

variable {U : UDPSocket}

/-- The client thread at `p` carries transmission `n`. -/
def Carries (app : GenericUDPApplication U) (p : ThreadPtr) (n : Nat) : Prop :=
  ∃ t, app.threads.lookup p = some t ∧ t.transmission = some n

structure Worked (app : GenericUDPApplication U) (e : Effect U) : Prop where
  isServer : e.app.isServer = app.isServer
  carries : HandsOver app.Carries e.app.Carries (e.report.map Prod.fst)

theorem Worked.silent {app : GenericUDPApplication U} {e : Effect U}
    (hserver : e.app.isServer = app.isServer) (hreport : e.report = none)
    (hcarries : ∀ p n, e.app.Carries p n → app.Carries p n) : app.Worked e := by
  refine ⟨hserver, ?_⟩
  rw [hreport]
  exact .nothing hcarries

theorem setThread_carries {app : GenericUDPApplication U} {p : ThreadPtr} {t t' : Thread U}
    (ht : app.threads.lookup p = some t) (hcall : Thread.Callback t t') (q : ThreadPtr) (n : Nat)
    (h : (app.setThread p t').Carries q n) : app.Carries q n := by
  obtain ⟨x, hx, hn⟩ := h
  by_cases hq : q = p
  · subst hq
    rw [show (app.setThread q t').threads.lookup q = some t' from AList.lookup_insert _] at hx
    cases hx
    exact ⟨t, ht, hcall.transmission.symm.trans hn⟩
  · exact ⟨x, (AList.lookup_insert_ne hq).symm.trans hx, hn⟩

theorem removeThread_carries (app : GenericUDPApplication U) (p : ThreadPtr) :
    Post (fun app' => app'.isServer = app.isServer ∧
      (∀ q n, app'.Carries q n → app.Carries q n) ∧ ∀ n, ¬ app'.Carries p n)
      (app.removeThread p) := by
  refine (app.removeThread_spec p).mono ?_
  rintro _ ⟨t, mySocket, -, -, rfl, -, -⟩
  have hgone (n : Nat) (x : Thread U) : (app.threads.erase p).lookup p = some x → False := by
    simp
  refine ⟨rfl, ?_, fun n h => hgone n _ h.choose_spec.1⟩
  rintro q n ⟨x, hx, hn⟩
  by_cases hq : q = p
  · subst hq
    exact (hgone n x hx).elim
  · exact ⟨x, (AList.lookup_erase_ne hq).symm.trans hx, hn⟩

theorem removeThread_worked (app : GenericUDPApplication U) (p : ThreadPtr) :
    Post app.Worked (do let app ← app.removeThread p; return { app := app }) := by
  refine (app.removeThread_carries p).bind ?_
  rintro app' ⟨hserver, hcarries, -⟩
  exact .silent hserver rfl hcarries

theorem removeThreadWith_worked {app : GenericUDPApplication U} {p : ThreadPtr} {n : Nat}
    (hcarries : app.Carries p n) (stat : TransmissionStatistics) :
    Post app.Worked (app.removeThreadWith p n stat) := by
  refine (app.removeThread_carries p).bind ?_
  rintro app' ⟨hserver, hkept, hgone⟩
  refine ⟨hserver, hkept, ?_⟩
  intro m hm
  have hnm : n = m := by
    cases hclient : app'.isServer with
    | true =>
        rw [hclient] at hm
        cases hm
    | false =>
        rw [hclient] at hm
        exact Option.some.inj hm
  exact ⟨p, hnm ▸ hcarries, hgone⟩

theorem timerExpired_worked (app : GenericUDPApplication U) (p : ThreadPtr)
    (draws : Nat → Draw) : Post app.Worked (app.timerExpired p draws) := by
  unfold timerExpired
  split
  · exact Post.error _
  · rename_i v hv
    refine Post.bind_ok fun r hr => ?_
    have hset := setThread_carries hv (.serverTimer hr)
    split
    · exact .silent rfl rfl hset
    · refine (removeThread_worked _ p).mono fun e he => ?_
      exact ⟨he.isServer, he.carries.after hset⟩
  · rename_i c hc
    refine Post.bind_ok fun r hr => ?_
    have hset := setThread_carries hc (.clientTimer hr)
    split
    · have hclient : (app.setThread p (.client r.thread)).Carries p c.transmission :=
        ⟨_, AList.lookup_insert _, (Thread.Callback.clientTimer hr).transmission⟩
      refine (removeThreadWith_worked hclient _).mono fun e he => ?_
      exact ⟨he.isServer, he.carries.after hset⟩
    · exact .silent rfl rfl hset

theorem handleError_worked (app : GenericUDPApplication U) (ctrl : Option UDPControlInfo) :
    Post app.Worked (app.handleError ctrl) := by
  have hsame : app.Worked { app := app } := .silent rfl rfl fun _ _ h => h
  unfold handleError
  split
  · exact Post.error _
  · split
    · exact hsame
    · split
      · exact Post.error _
      · split
        · exact app.removeThread_worked _
        · split
          · rename_i c hc
            exact removeThreadWith_worked ⟨_, hc, rfl⟩ _
          · exact Post.error _

/-- A request makes a server thread, which carries nothing. -/
theorem accept_worked (app : GenericUDPApplication U) (ctrl : UDPControlInfo)
    (appmsg : GenericApplicationMessage) {sockId : Int} {q : ThreadPtr} :
    Post (fun app' => app.Worked { app := app' }) (app.accept ctrl appmsg sockId q) := by
  refine (app.accept_spec ctrl appmsg sockId q).mono ?_
  rintro _ ⟨v, -, -, rfl⟩
  refine .silent app.closeWhenFull_isServer rfl ?_
  rintro p n ⟨t, ht, hn⟩
  by_cases hp : p = q
  · subst hp
    rw [show (app.closeWhenFull.addThread p (.server v)).threads.lookup p = some (.server v) from
      AList.lookup_insert _] at ht
    cases ht
    cases hn
  · have ht' : app.closeWhenFull.threads.lookup p = some t :=
      (AList.lookup_insert_ne hp).symm.trans ht
    rw [closeWhenFull_threads] at ht'
    exact ⟨t, ht', hn⟩

theorem handleLast_worked (app : GenericUDPApplication U) (ctrl : Option UDPControlInfo)
    (draws : Nat → Draw) :
    Post (fun app' => app.Worked { app := app' }) (app.handleLast ctrl draws) := by
  refine (app.handleLast_spec ctrl draws).mono ?_
  rintro _ ⟨ctrl', info, c, c', -, -, hc, hc', rfl⟩
  exact .silent rfl rfl (setThread_carries hc (.clientLast hc'))

theorem apply_worked (app : GenericUDPApplication U) {a : Action} (ha : a.external = true) :
    Post app.Worked (app.apply a) := by
  have hsame : app.Worked { app := app } := .silent rfl rfl fun _ _ h => h
  cases a with
  | timer p draws => exact app.timerExpired_worked p draws
  | error ctrl => exact app.handleError_worked ctrl
  | message ctrl appmsg draws sockId q =>
      have hmessage : Post (fun app' => app.Worked { app := app' })
          (app.handleAppMessage ctrl appmsg draws sockId q) := by
        unfold handleAppMessage
        split
        · exact hsame
        · split
          · split
            · exact Post.error _
            · exact app.accept_worked _ _
          · split
            · exact app.handleLast_worked ctrl draws
            · exact hsame
      exact hmessage.bind fun _ he => he
  | transmissionStart => cases ha
  | removeThread => cases ha

/-- A started transmission is carried by the new thread. -/
theorem transmissionStart_carries (app : GenericUDPApplication U) (p : TrafficProfile)
    (i : TargetInfo) (transmission : Nat) (draws : Nat → Draw) (sockId : Int) (q : ThreadPtr) :
    Post (fun app' => app'.isServer = app.isServer ∧
      ∀ x n, app'.Carries x n → app.Carries x n ∨ (x = q ∧ n = transmission))
      (app.transmissionStart p i transmission draws sockId q) := by
  refine (app.transmissionStart_spec p i transmission draws sockId q).mono ?_
  rintro _ ⟨-, c, hc, -, rfl⟩
  refine ⟨rfl, ?_⟩
  rintro x n ⟨t, ht, hn⟩
  by_cases hx : x = q
  · subst hx
    rw [show (app.addThread x (.client c)).threads.lookup x = some (.client c) from
      AList.lookup_insert _] at ht
    cases ht
    cases hn
    exact .inr ⟨rfl, hc.transmission_eq⟩
  · exact .inl ⟨t, (AList.lookup_insert_ne hx).symm.trans ht, hn⟩

end GenericUDPApplication

end UdpApp

/-! ## TCP -/

namespace TcpApp

def AppAction.external : AppAction → Bool
  | .timer .. | .indication .. => true
  | .transmissionStart .. => false

/-- The statistics that a step passes to the user. -/
def Effect.report {S : TCPSocket} (e : Effect S) : Option (Nat × Traffic.TransmissionStatistics) :=
  e.log.findSome? fun
    | .reported transmission stat => some (transmission, stat)
    | _ => none

namespace GenericTCPApplication

variable {S : TCPSocket}

/-- The client thread at `p` carries transmission `n`. -/
def Carries (app : GenericTCPApplication S) (p : ThreadPtr) (n : Nat) : Prop :=
  ∃ t, app.threads.lookup p = some t ∧ t.transmission = some n

structure Worked (app : GenericTCPApplication S) (e : Effect S) : Prop where
  isServer : e.app.isServer = app.isServer
  carries : HandsOver app.Carries e.app.Carries (e.report.map Prod.fst)

theorem setThread_carries {app : GenericTCPApplication S} {p : ThreadPtr} {t t' : Thread S}
    (ht : app.threads.lookup p = some t) (htrans : t'.transmission = t.transmission)
    (q : ThreadPtr) (n : Nat) (h : (app.setThread p t').Carries q n) : app.Carries q n := by
  obtain ⟨x, hx, hn⟩ := h
  by_cases hq : q = p
  · subst hq
    rw [show (app.setThread q t').threads.lookup q = some t' from AList.lookup_insert _] at hx
    cases hx
    exact ⟨t, ht, htrans.symm.trans hn⟩
  · exact ⟨x, (AList.lookup_insert_ne hq).symm.trans hx, hn⟩

theorem dropThread_gone (app : GenericTCPApplication S) (p : ThreadPtr) (connId : Int) (n : Nat) :
    ¬ (app.dropThread p connId).Carries p n := by
  rintro ⟨x, hx, -⟩
  rw [show (app.dropThread p connId).threads.lookup p = none from AList.lookup_erase ..] at hx
  cases hx

theorem dropThread_carries {app : GenericTCPApplication S} {p : ThreadPtr} {connId : Int}
    (q : ThreadPtr) (n : Nat) (h : (app.dropThread p connId).Carries q n) : app.Carries q n := by
  by_cases hq : q = p
  · subst hq
    exact (app.dropThread_gone q connId n h).elim
  · obtain ⟨x, hx, hn⟩ := h
    exact ⟨x, (AList.lookup_erase_ne hq).symm.trans hx, hn⟩

theorem Finished.worked {app : GenericTCPApplication S} {p : ThreadPtr} {t : Thread S}
    {e : Effect S} (ht : app.threads.lookup p = some t) (he : app.Finished p t e) :
    app.Worked e := by
  cases he with
  | kept t' _ htrans => exact ⟨rfl, .nothing (setThread_carries ht htrans)⟩
  | removed t' _ htrans _ _ =>
      exact ⟨rfl, (HandsOver.nothing dropThread_carries).after (setThread_carries ht htrans)⟩
  | reported t' transmission stat _ htrans _ hclient =>
      refine ⟨rfl, fun q n hq => setThread_carries ht htrans q n (dropThread_carries q n hq), ?_⟩
      intro n hn
      refine ⟨p, ⟨t, ht, ?_⟩, dropThread_gone _ p t.connId⟩
      cases hserver : app.isServer with
      | true =>
          rw [hserver] at hn
          cases hn
      | false =>
          rw [hserver] at hn
          cases hn
          exact hclient

theorem Handled.worked {app : GenericTCPApplication S} {connId : Int} {q : ThreadPtr}
    {e : Effect S} (hclient : app.isServer = false) (he : app.Handled connId q e) :
    app.Worked e := by
  cases he with
  | thread p t _ _ ht he => exact he.worked ht
  | refused _ hserver _ => exact (Bool.eq_false_iff.mp hclient hserver).elim
  | created _ _ hserver _ _ => exact (Bool.eq_false_iff.mp hclient hserver).elim

theorem apply_worked {app : GenericTCPApplication S} (hclient : app.isServer = false)
    {a : AppAction} (ha : a.external = true) : Post app.Worked (app.apply a) := by
  cases a with
  | timer p d =>
      refine (app.timerExpired_spec p d).mono ?_
      rintro e ⟨t, ht, he⟩
      exact he.worked ht
  | indication connId ind d q =>
      exact (app.handleMessage_spec connId ind d q).mono fun e he => he.worked hclient
  | transmissionStart => cases ha

/-- A started transmission is carried by the new thread. -/
theorem transmissionStart_carries (app : GenericTCPApplication S) (p : Traffic.TrafficProfile)
    (transmission : Nat) (d : Traffic.Draw) (connId : Int) (q : ThreadPtr) :
    Post (fun e => e.app.isServer = app.isServer ∧
      ∀ x n, e.app.Carries x n → app.Carries x n ∨ (x = q ∧ n = transmission))
      (app.transmissionStart p transmission d connId q) := by
  refine (app.transmissionStart_spec p transmission d connId q).mono ?_
  rintro _ ⟨-, -, c, rfl⟩
  refine ⟨rfl, ?_⟩
  rintro x n ⟨t, ht, hn⟩
  by_cases hx : x = q
  · subst hx
    rw [show (app.addThread x ⟨connId, .client transmission c⟩).threads.lookup x =
      some ⟨connId, .client transmission c⟩ from AList.lookup_insert _] at ht
    cases ht
    cases hn
    exact .inr ⟨rfl, rfl⟩
  · exact .inl ⟨t, (AList.lookup_insert_ne hx).symm.trans ht, hn⟩

end GenericTCPApplication

end TcpApp

/-! ## ICMP -/

namespace PingApp

namespace GenericICMPPingApplication

/-- The application itself carries transmission `n`. -/
def Carries (app : GenericICMPPingApplication) (_ : Unit) (n : Nat) : Prop :=
  app.selfMsg = true ∧ app.transmission = n

/-- The self message goes on with the transmission, or reports it and stops. -/
theorem timerExpired_worked {app : GenericICMPPingApplication} (hself : app.selfMsg = true)
    (draws : Nat → Draw) :
    Post (fun e => HandsOver app.Carries e.app.Carries (e.report.map Prod.fst))
      (app.timerExpired draws) := by
  unfold timerExpired
  dsimp only
  split
  · refine Post.bind_any fun selfMsg => ?_
    refine .nothing ?_
    rintro _ n ⟨-, rfl⟩
    exact ⟨hself, rfl⟩
  · refine ⟨?_, ?_⟩
    · rintro _ n ⟨h, -⟩
      cases h
    · intro n hn
      cases hn
      refine ⟨(), ⟨hself, rfl⟩, ?_⟩
      rintro m ⟨h, -⟩
      cases h

theorem receivePong_carries (app : GenericICMPPingApplication) (msg : Option PingPayload) :
    HandsOver app.Carries (app.receivePong msg).Carries none := by
  obtain ⟨htrans, hself⟩ := app.receivePong_same msg
  refine .nothing ?_
  rintro _ n ⟨h, rfl⟩
  exact ⟨hself.symm.trans h, htrans.symm⟩

end GenericICMPPingApplication

end PingApp

end ScadaSim
