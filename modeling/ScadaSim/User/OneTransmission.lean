import ScadaSim.TcpApp.Safety
import ScadaSim.Traffic.ServerSelection
import ScadaSim.User.Host

/-!
# One transmission at a time

A user books a report under the protocol of its current profile. That this is the
protocol of the application that reports rests on one invariant of the host,
`Orderly`: what is carried anywhere is the one transmission that was started last,
and the current profile is its profile.
-/

namespace ScadaSim.User

open Lib Traffic

/-! ## The books -/

/-- The statistics and the sessions of one protocol. -/
def booksOf (c : UserCommunicationStatistics) : ApplicationType → TransmissionStatistics × UInt64
  | .tcpApp => (c.tcp, c.tcpSessions)
  | .udpApp => (c.udp, c.udpSessions)
  | .icmpApp => (c.icmp, c.icmpSessions)
  | .notSet => ({}, 0)

/-- The totals are the sums over the protocols, modulo 2^64. -/
structure Conserved (c : UserCommunicationStatistics) : Prop where
  total : c.total = c.tcp.add (c.udp.add c.icmp)
  sessions : c.totalSessions = c.tcpSessions + (c.udpSessions + c.icmpSessions)

/-- The statistics that the application `a` has reported. -/
def statsOf (a : ApplicationType) (reports : List Report) : List TransmissionStatistics :=
  (reports.filter fun r => r.producer = a).map Report.stat

/-- Each protocol has the reports of its own application in its books. -/
def Booked (c : UserCommunicationStatistics) (reports : List Report) : Prop :=
  ∀ a, a ≠ .notSet → booksOf c a =
    ((statsOf a reports).foldl TransmissionStatistics.add {},
      UInt64.ofNat (statsOf a reports).length)

instance : Std.Associative TransmissionStatistics.add where
  assoc := by
    intro s t u
    simp [TransmissionStatistics.add, UInt64.add_assoc]

instance : Std.Commutative TransmissionStatistics.add where
  comm := by
    intro s t
    simp [TransmissionStatistics.add, UInt64.add_comm]

namespace InetUser

/-- A report goes into the books of the protocol of the current profile. -/
theorem booksOf_book (u : InetUser) (t : TransmissionStatistics) {a : ApplicationType}
    (ha : a ≠ .notSet) :
    booksOf (u.book t).communicationStatistics a =
      if GET_APP_TYPE u.curTrafficProfile.profileID = a then
        ((booksOf u.communicationStatistics a).1.add t,
          (booksOf u.communicationStatistics a).2 + 1)
      else booksOf u.communicationStatistics a := by
  unfold book
  cases GET_APP_TYPE u.curTrafficProfile.profileID <;> cases a <;>
    first | exact absurd rfl ha | rfl

theorem book_conserved {u : InetUser} (t : TransmissionStatistics)
    (hset : GET_APP_TYPE u.curTrafficProfile.profileID ≠ .notSet)
    (h : Conserved u.communicationStatistics) : Conserved (u.book t).communicationStatistics := by
  obtain ⟨htotal, hsessions⟩ := h
  unfold book
  cases htype : GET_APP_TYPE u.curTrafficProfile.profileID with
  | notSet => exact absurd htype hset
  | tcpApp =>
      constructor
      · -- each type books into the total and into one other sum
        show u.communicationStatistics.total.add t = (u.communicationStatistics.tcp.add t).add
          (u.communicationStatistics.udp.add u.communicationStatistics.icmp)
        rw [htotal]
        ac_rfl
      · show u.communicationStatistics.totalSessions + 1 = u.communicationStatistics.tcpSessions +
          1 + (u.communicationStatistics.udpSessions + u.communicationStatistics.icmpSessions)
        rw [hsessions]
        ac_rfl
  | udpApp =>
      constructor
      · show u.communicationStatistics.total.add t = u.communicationStatistics.tcp.add
          ((u.communicationStatistics.udp.add t).add u.communicationStatistics.icmp)
        rw [htotal]
        ac_rfl
      · show u.communicationStatistics.totalSessions + 1 = u.communicationStatistics.tcpSessions +
          (u.communicationStatistics.udpSessions + 1 + u.communicationStatistics.icmpSessions)
        rw [hsessions]
        ac_rfl
  | icmpApp =>
      constructor
      · show u.communicationStatistics.total.add t = u.communicationStatistics.tcp.add
          (u.communicationStatistics.udp.add (u.communicationStatistics.icmp.add t))
        rw [htotal]
        ac_rfl
      · show u.communicationStatistics.totalSessions + 1 = u.communicationStatistics.tcpSessions +
          (u.communicationStatistics.udpSessions + (u.communicationStatistics.icmpSessions + 1))
        rw [hsessions]
        ac_rfl

end InetUser

theorem Booked.book {u : InetUser} {reports : List Report} {r : Report}
    (hproducer : GET_APP_TYPE u.curTrafficProfile.profileID = r.producer)
    (h : Booked u.communicationStatistics reports) :
    Booked (u.book r.stat).communicationStatistics (reports ++ [r]) := by
  intro a ha
  rw [u.booksOf_book r.stat ha, hproducer]
  by_cases hown : r.producer = a
  · have hstats : statsOf a (reports ++ [r]) = statsOf a reports ++ [r.stat] := by
      unfold statsOf
      simp [List.filter_append, hown]
    rw [if_pos hown, h a ha, hstats, List.foldl_append, List.length_append]
    simp
  · have hstats : statsOf a (reports ++ [r]) = statsOf a reports := by
      unfold statsOf
      simp [List.filter_append, hown]
    rw [if_neg hown, h a ha, hstats]

/-- The next transmission is one of the profile that the user has got. -/
theorem InetUser.transmissionDone_spec (u : InetUser) (supply : Supply) (sim : Sim) :
    Post (fun d => d.user.communicationStatistics = u.communicationStatistics ∧
      ∀ a, d.start = some a → GET_APP_TYPE d.user.curTrafficProfile.profileID = a)
      (u.transmissionDone supply sim) := by
  unfold transmissionDone
  refine Post.bind_any fun r => ?_
  have hport (c : Prop) [Decidable c] (b a : ApplicationType) :
      (if c then some b else none) = some a → b = a := by
    split
    · exact Option.some.inj
    · nofun
  unfold startTransmission
  split
  · exact Post.error _
  · rename_i htype
    exact ⟨rfl, fun a ha => htype.trans (hport _ _ _ ha)⟩
  · rename_i htype
    exact ⟨rfl, fun a ha => htype.trans (Option.some.inj ha)⟩
  · rename_i htype
    exact ⟨rfl, fun a ha => htype.trans (hport _ _ _ ha)⟩

/-! ## Where transmissions are carried -/

/-- A thread of an application, or the ping application. -/
inductive Place
  | udp (p : UdpApp.ThreadPtr)
  | tcp (p : TcpApp.ThreadPtr)
  | icmp

def Place.type : Place → ApplicationType
  | .udp _ => .udpApp
  | .tcp _ => .tcpApp
  | .icmp => .icmpApp

namespace Host

variable {U : UdpApp.UDPSocket} {S : TcpApp.TCPSocket}

def Carries (h : Host U S) : Place → Nat → Prop
  | .udp p => h.udp.Carries p
  | .tcp p => h.tcp.Carries p
  | .icmp => h.icmp.Carries ()

/-- Transmission `n` is started and not reported. -/
def Outstanding (h : Host U S) (n : Nat) : Prop :=
  n < h.started ∧ n ∉ h.reports.map Report.transmission

/-- What the user can account for, whatever its applications are doing. -/
structure Accounted (h : Host U S) : Prop where
  udp : h.udp.isServer = false
  tcp : h.tcp.isServer = false
  reported : h.reports.map Report.transmission = List.range h.reports.length
  booked : Booked h.user.communicationStatistics h.reports
  conserved : Conserved h.user.communicationStatistics

/-- No transmission is under way. -/
structure Settled (h : Host U S) : Prop extends Accounted h where
  idle : ∀ x n, ¬ h.Carries x n
  awake : h.startMessage = false
  started : h.started = h.reports.length

/-- One transmission is under way at most, the one that was started last, and the
current profile is its profile. -/
structure Orderly (h : Host U S) : Prop extends Accounted h where
  single : Single h.Carries
  current : ∀ x n, h.Carries x n → n = h.reports.length ∧ n < h.started ∧
    GET_APP_TYPE h.user.curTrafficProfile.profileID = x.type
  waiting : h.startMessage = true → h.started = 0
  started : h.reports.length ≤ h.started ∧ h.started ≤ h.reports.length + 1

theorem Settled.orderly {h : Host U S} (hs : Settled h) : Orderly h where
  toAccounted := hs.toAccounted
  single := fun x _ n _ hx _ => (hs.idle x n hx).elim
  current := fun x n hx => (hs.idle x n hx).elim
  waiting := by
    intro hwait
    rw [hs.awake] at hwait
    cases hwait
  started := by
    have hstarted := hs.started
    omega

/-! ## A start -/

/-- The place `x` takes up the transmission that is started now. -/
structure Starts (h h' : Host U S) (a : ApplicationType) : Prop where
  user : h'.user = h.user
  startMessage : h'.startMessage = h.startMessage
  started : h'.started = h.started + 1
  reports : h'.reports = h.reports
  udp : h'.udp.isServer = h.udp.isServer
  tcp : h'.tcp.isServer = h.tcp.isServer
  carries : ∃ x : Place, x.type = a ∧
    ∀ y n, h'.Carries y n → h.Carries y n ∨ (y = x ∧ n = h.started)

theorem start_spec {h h' : Host U S} {n : Turn} {a : ApplicationType}
    (hnext : h.start n a = some h') : Starts h h' a := by
  unfold start at hnext
  split at hnext
  swap
  · cases hnext
  cases a with
  | notSet => cases hnext
  | udpApp =>
      dsimp only at hnext
      split at hnext
      swap
      · cases hnext
      split at hnext
      · rename_i app happ
        cases hnext
        obtain ⟨hserver, hcarries⟩ :=
          (h.udp.transmissionStart_carries _ _ _ _ _ _).of_ok happ
        -- only the thread just made carries the number that is new
        refine ⟨rfl, rfl, rfl, rfl, hserver, rfl, .udp n.q, rfl, ?_⟩
        intro y m hy
        cases y with
        | udp p =>
            rcases hcarries p m hy with hold | ⟨rfl, hm⟩
            · exact .inl hold
            · exact .inr ⟨rfl, hm⟩
        | tcp p => exact .inl hy
        | icmp => exact .inl hy
      · cases hnext
  | tcpApp =>
      dsimp only at hnext
      split at hnext
      swap
      · cases hnext
      split at hnext
      · rename_i e he
        cases hnext
        obtain ⟨hserver, hcarries⟩ := (h.tcp.transmissionStart_carries _ _ _ _ _).of_ok he
        refine ⟨rfl, rfl, rfl, rfl, rfl, hserver, .tcp n.q, rfl, ?_⟩
        intro y m hy
        cases y with
        | udp p => exact .inl hy
        | tcp p =>
            rcases hcarries p m hy with hold | ⟨rfl, hm⟩
            · exact .inl hold
            · exact .inr ⟨rfl, hm⟩
        | icmp => exact .inl hy
      · cases hnext
  | icmpApp =>
      dsimp only at hnext
      split at hnext
      · rename_i app happ
        cases hnext
        have htrans := (h.icmp.transmissionStart_spec _ _ _ _).of_ok happ
        refine ⟨rfl, rfl, rfl, rfl, rfl, rfl, .icmp, rfl, ?_⟩
        intro y m hy
        cases y with
        | udp p => exact .inl hy
        | tcp p => exact .inl hy
        | icmp => exact .inr ⟨rfl, hy.2.symm.trans htrans⟩
      · cases hnext

theorem Settled.start {h h' : Host U S} (hs : Settled h) {n : Turn} {a : ApplicationType}
    (htype : GET_APP_TYPE h.user.curTrafficProfile.profileID = a)
    (hnext : h.start n a = some h') : Orderly h' := by
  obtain ⟨huser, hwait, hstarted, hreports, hudp, htcp, x, hx, hcarries⟩ := start_spec hnext
  -- nothing was carried before, so the one thread is the only place
  have hcur : ∀ y m, h'.Carries y m → y = x ∧ m = h.started := by
    intro y m hy
    rcases hcarries y m hy with hold | hnew
    · exact (hs.idle y m hold).elim
    · exact hnew
  have hcount := hs.started
  constructor
  · constructor
    · exact hudp.trans hs.udp
    · exact htcp.trans hs.tcp
    · rw [hreports]
      exact hs.reported
    · rw [huser, hreports]
      exact hs.booked
    · rw [huser]
      exact hs.conserved
  · intro y z m k hy hz
    rw [(hcur y m hy).1, (hcur z k hz).1]
  · intro y m hy
    obtain ⟨rfl, rfl⟩ := hcur y m hy
    rw [hreports, hstarted, huser]
    exact ⟨hcount, by omega, htype.trans hx.symm⟩
  · intro hwaiting
    rw [hwait, hs.awake] at hwaiting
    cases hwaiting
  · rw [hreports, hstarted]
    omega

theorem Settled.transmissionDone {h h' : Host U S} (hs : Settled h) {n : Turn}
    (hnext : h.transmissionDone n = some h') : Orderly h' := by
  unfold Host.transmissionDone at hnext
  split at hnext
  · cases hnext
  · rename_i d hd
    obtain ⟨hstats, htype⟩ := (h.user.transmissionDone_spec n.supply n.sim).of_ok hd
    have hs' : Settled { h with user := d.user } := by
      refine ⟨⟨hs.udp, hs.tcp, hs.reported, ?_, ?_⟩, ?_, hs.awake, hs.started⟩
      · rw [hstats]
        exact hs.booked
      · rw [hstats]
        exact hs.conserved
      · intro x m hx
        refine hs.idle x m ?_
        cases x <;> exact hx
    split at hnext
    · cases hnext
      exact hs'.orderly
    · rename_i a ha
      exact hs'.start (htype a ha) hnext

/-! ## A report -/

/-- An application has worked: it has given up the transmission that it reports. -/
structure Worked (h h' : Host U S) (producer : ApplicationType)
    (report : Option (Nat × TransmissionStatistics)) : Prop where
  user : h'.user = h.user
  startMessage : h'.startMessage = h.startMessage
  started : h'.started = h.started
  reports : h'.reports = h.reports
  udp : h'.udp.isServer = h.udp.isServer
  tcp : h'.tcp.isServer = h.tcp.isServer
  carries : HandsOver h.Carries h'.Carries (report.map Prod.fst)
  producer : ∀ r, report = some r → ∃ x : Place, x.type = producer ∧ h.Carries x r.1

theorem Accounted.worked {h h' : Host U S} (ha : Accounted h) {producer : ApplicationType}
    {report : Option (Nat × TransmissionStatistics)} (hw : Worked h h' producer report) :
    Accounted h' where
  udp := hw.udp.trans ha.udp
  tcp := hw.tcp.trans ha.tcp
  reported := by
    rw [hw.reports]
    exact ha.reported
  booked := by
    rw [hw.user, hw.reports]
    exact ha.booked
  conserved := by
    rw [hw.user]
    exact ha.conserved

theorem Orderly.worked {h h' : Host U S} (ho : Orderly h) {producer : ApplicationType}
    {report : Option (Nat × TransmissionStatistics)} (hw : Worked h h' producer report) :
    Orderly h' where
  toAccounted := ho.toAccounted.worked hw
  single := hw.carries.single ho.single
  current := by
    intro x n hx
    rw [hw.reports, hw.started, hw.user]
    exact ho.current x n (hw.carries.kept x n hx)
  waiting := by
    rw [hw.startMessage, hw.started]
    exact ho.waiting
  started := by
    rw [hw.started, hw.reports]
    exact ho.started

/-- The host as `transmissionDone(t)` leaves it, before the next transmission. -/
theorem Orderly.booked_settled {h h' : Host U S} (ho : Orderly h) {producer : ApplicationType}
    {r : Nat × TransmissionStatistics} (hw : Worked h h' producer (some r)) :
    Settled { h' with
      user := h'.user.book r.2
      reports := h'.reports ++ [⟨r.1, producer, r.2⟩] } := by
  obtain ⟨x, hx, hcarried⟩ := hw.producer r rfl
  obtain ⟨hlast, hstarted, htype⟩ := ho.current x r.1 hcarried
  have ha := ho.toAccounted.worked hw
  have hreports := congrArg List.length hw.reports
  have htype' : GET_APP_TYPE h'.user.curTrafficProfile.profileID = producer := by
    rw [hw.user]
    exact htype.trans hx
  have hset : producer ≠ .notSet := by
    rw [← hx]
    cases x <;> nofun
  constructor
  · constructor
    · exact ha.udp
    · exact ha.tcp
    · show (h'.reports ++ [_]).map Report.transmission = List.range (h'.reports ++ [_]).length
      rw [List.map_append, ha.reported, List.length_append, List.length_singleton,
        List.range_succ, hreports, ← hlast]
      rfl
    · exact Booked.book (r := ⟨r.1, producer, r.2⟩) htype' ha.booked
    · show Conserved (h'.user.book r.2).communicationStatistics
      refine InetUser.book_conserved r.2 ?_ ha.conserved
      rw [htype']
      exact hset
  · intro y m hy
    -- the one transmission that was carried has been reported
    refine hw.carries.empty ho.single y m ?_
    cases y <;> exact hy
  · show h'.startMessage = false
    rw [hw.startMessage, Bool.eq_false_iff]
    intro hwait
    have hnone := ho.waiting hwait
    omega
  · have hcount := ho.started
    show h'.started = (h'.reports ++ [_]).length
    rw [List.length_append, List.length_singleton, hw.started, hreports]
    omega

theorem Orderly.finish {h h1 h' : Host U S} (ho : Orderly h) {producer : ApplicationType}
    {report : Option (Nat × TransmissionStatistics)} (hw : Worked h h1 producer report)
    {n : Turn} (hnext : h1.finish n producer report = some h') : Orderly h' := by
  cases report with
  | none =>
      cases hnext
      exact ho.worked hw
  | some r => exact (ho.booked_settled hw).transmissionDone hnext

/-- The step of an application, whose places are those that `place` gives, as a step
of the host. -/
theorem worked_of_handsOver {h h' : Host U S} {producer : ApplicationType}
    {report : Option (Nat × TransmissionStatistics)} {Q : Type} {part part' : Q → Nat → Prop}
    (place : Q → Place) (htype : ∀ q, (place q).type = producer) (huser : h'.user = h.user)
    (hstart : h'.startMessage = h.startMessage) (hstarted : h'.started = h.started)
    (hreports : h'.reports = h.reports) (hudp : h'.udp.isServer = h.udp.isServer)
    (htcp : h'.tcp.isServer = h.tcp.isServer) (hbefore : ∀ q, h.Carries (place q) = part q)
    (hafter : ∀ q, h'.Carries (place q) = part' q)
    (hrest : ∀ x, (∀ q, x ≠ place q) → h'.Carries x = h.Carries x)
    (hwork : HandsOver part part' (report.map Prod.fst)) : Worked h h' producer report where
  user := huser
  startMessage := hstart
  started := hstarted
  reports := hreports
  udp := hudp
  tcp := htcp
  carries := by
    refine hwork.lift place ?_ ?_ ?_
    · intro q n hq
      rwa [hbefore q]
    · intro q n hq
      rwa [← hafter q]
    · -- what the other applications carry is untouched
      intro x hx n hn
      rwa [← hrest x hx]
  producer := by
    rintro r rfl
    obtain ⟨q, hq, -⟩ := hwork.out r.1 rfl
    refine ⟨place q, htype q, ?_⟩
    rwa [hbefore q]

theorem worked_udp {h : Host U S} {e : UdpApp.Effect U}
    (hwork : h.udp.Worked e) : Worked h { h with udp := e.app } .udpApp e.report := by
  refine worked_of_handsOver .udp (fun _ => rfl) rfl rfl rfl rfl hwork.isServer rfl
    (fun _ => rfl) (fun _ => rfl) ?_ hwork.carries
  intro x hx
  cases x with
  | udp p => exact (hx p rfl).elim
  | tcp p => rfl
  | icmp => rfl

theorem worked_tcp {h : Host U S} {e : TcpApp.Effect S}
    (hwork : h.tcp.Worked e) : Worked h { h with tcp := e.app } .tcpApp e.report := by
  refine worked_of_handsOver .tcp (fun _ => rfl) rfl rfl rfl rfl rfl hwork.isServer
    (fun _ => rfl) (fun _ => rfl) ?_ hwork.carries
  intro x hx
  cases x with
  | udp p => rfl
  | tcp p => exact (hx p rfl).elim
  | icmp => rfl

theorem worked_ping {h : Host U S} {app : PingApp.GenericICMPPingApplication}
    {report : Option (Nat × TransmissionStatistics)}
    (hwork : HandsOver h.icmp.Carries app.Carries (report.map Prod.fst)) :
    Worked h { h with icmp := app } .icmpApp report := by
  refine worked_of_handsOver (fun _ : Unit => .icmp) (fun _ => rfl) rfl rfl rfl rfl rfl rfl
    (fun _ => rfl) (fun _ => rfl) ?_ hwork
  intro x hx
  cases x with
  | udp p => rfl
  | tcp p => rfl
  | icmp => exact (hx () rfl).elim

/-- Before the start message has come, nothing has been started. -/
theorem Orderly.wakeup {h : Host U S} (ho : Orderly h) (hwait : h.startMessage = true) :
    Settled { h with startMessage := false } := by
  have hnone := ho.waiting hwait
  have hcount := ho.started
  refine ⟨⟨ho.udp, ho.tcp, ho.reported, ho.booked, ho.conserved⟩, ?_, rfl, ?_⟩
  · intro x m hx
    have hcarried : h.Carries x m := by
      cases x <;> exact hx
    have hcur := (ho.current x m hcarried).2.1
    omega
  · show h.started = h.reports.length
    omega

/-- Every event keeps the host orderly. -/
theorem Orderly.next {h h' : Host U S} (ho : Orderly h) {n : Turn} {ev : Event}
    (hnext : h.next n ev = some h') : Orderly h' := by
  cases ev with
  | wakeup =>
      dsimp only [Host.next] at hnext
      split at hnext
      · rename_i hwait
        exact (ho.wakeup hwait).transmissionDone hnext
      · cases hnext
  | udp a =>
      dsimp only [Host.next] at hnext
      split at hnext
      swap
      · cases hnext
      rename_i ha
      split at hnext
      · rename_i e he
        exact ho.finish (worked_udp ((h.udp.apply_worked ha.1).of_ok he)) hnext
      · cases hnext
  | tcp a =>
      dsimp only [Host.next] at hnext
      split at hnext
      swap
      · cases hnext
      rename_i ha
      split at hnext
      · rename_i e he
        have hwork := (TcpApp.GenericTCPApplication.apply_worked ho.tcp ha.1).of_ok he
        exact ho.finish (worked_tcp hwork) hnext
      · cases hnext
  | pingTimer draws =>
      dsimp only [Host.next] at hnext
      split at hnext
      swap
      · cases hnext
      rename_i hself
      split at hnext
      · rename_i e he
        have hwork := (PingApp.GenericICMPPingApplication.timerExpired_worked hself draws).of_ok he
        exact ho.finish (worked_ping hwork) hnext
      · cases hnext
  | pong msg =>
      cases hnext
      have hwork := h.icmp.receivePong_carries msg
      have hworked : Worked h { h with icmp := h.icmp.receivePong msg } .icmpApp none :=
        worked_ping hwork
      exact ho.worked hworked

/-! ## Every run -/

theorem setApplication_statistics (registered : List (ApplicationType × Int)) (u : InetUser) :
    (registered.foldl (fun (u : InetUser) r => u.setApplication r.1 r.2) u).communicationStatistics =
      u.communicationStatistics := by
  induction registered generalizing u with
  | nil => rfl
  | cons r rest ih =>
      have hone :
          (u.setApplication r.1 r.2).communicationStatistics = u.communicationStatistics := by
        unfold InetUser.setApplication
        dsimp only
        split <;> rfl
      exact (ih _).trans hone

theorem Initial.orderly {h : Host U S} (hi : h.Initial) : Orderly h := by
  obtain ⟨⟨cm, id, registered, huser⟩, -, ⟨port, noThreads, sockId, hudp⟩, ⟨noThreads', htcp⟩,
    ⟨id', myAddr, hicmp⟩, hstarted, hreports⟩ := hi
  have hstats : h.user.communicationStatistics = {} := by
    rw [huser, setApplication_statistics]
  obtain ⟨hserver, -, -, hthreads, -⟩ :=
    (UdpApp.GenericUDPApplication.initializeModule_spec false port noThreads sockId).of_ok hudp
  -- no application has a thread or a timer yet
  have hidle : ∀ x n, ¬ h.Carries x n := by
    rintro x n hx
    cases x with
    | udp p =>
        obtain ⟨t, ht, -⟩ := hx
        rw [hthreads] at ht
        cases ht
    | tcp p =>
        obtain ⟨t, ht, -⟩ := hx
        rw [htcp] at ht
        cases ht
    | icmp =>
        obtain ⟨hself, -⟩ := hx
        rw [hicmp] at hself
        cases hself
  constructor
  · constructor
    · exact hserver
    · rw [htcp]
      rfl
    · rw [hreports]
      rfl
    · rw [hreports, hstats]
      intro a ha
      cases a <;> first | exact absurd rfl ha | rfl
    · rw [hstats]
      exact ⟨rfl, rfl⟩
  · exact fun x _ n _ hx _ => (hidle x n hx).elim
  · exact fun x n hx => (hidle x n hx).elim
  · exact fun _ => hstarted
  · rw [hstarted, hreports]
    exact ⟨le_refl _, Nat.zero_le _⟩

/-- What the transmissions of a user and its statistics keep to. -/
structure Accountable (h : Host U S) : Prop where
  single : ∀ m n, h.Outstanding m → h.Outstanding n → m = n
  carried : ∀ x y m n, h.Carries x m → h.Carries y n → x = y ∧ m = n ∧ h.Outstanding m
  once : (h.reports.map Report.transmission).Nodup
  reported : ∀ r ∈ h.reports, r.transmission < h.started
  booked : Booked h.user.communicationStatistics h.reports
  conserved : Conserved h.user.communicationStatistics

theorem Orderly.outstanding_iff {h : Host U S} (ho : Orderly h) (n : Nat) :
    h.Outstanding n ↔ n = h.reports.length ∧ n < h.started := by
  have hcount := ho.started
  unfold Outstanding
  rw [ho.reported, List.mem_range]
  omega

theorem Orderly.accountable {h : Host U S} (ho : Orderly h) : Accountable h where
  single := by
    intro m n hm hn
    rw [((ho.outstanding_iff m).mp hm).1, ((ho.outstanding_iff n).mp hn).1]
  carried := by
    intro x y m n hx hy
    obtain ⟨hm, hlt, -⟩ := ho.current x m hx
    obtain ⟨hn, -, -⟩ := ho.current y n hy
    exact ⟨ho.single x y m n hx hy, hm.trans hn.symm, (ho.outstanding_iff m).mpr ⟨hm, hlt⟩⟩
  once := by
    rw [ho.reported]
    exact List.nodup_range
  reported := by
    intro r hr
    have hmem : r.transmission ∈ h.reports.map Report.transmission := List.mem_map_of_mem hr
    have hcount := ho.started
    rw [ho.reported, List.mem_range] at hmem
    omega
  booked := ho.booked
  conserved := ho.conserved

end Host

variable {U : UdpApp.UDPSocket} {S : TcpApp.TCPSocket}

theorem host_orderly : (host U S).Invariant Host.Orderly :=
  TSys.Inductive.invariant
    { init := fun _ hi => Host.Initial.orderly hi
      step := fun _ _ _ ho hstep => ho.next hstep }

/-- In every run of a host its user has one transmission at a time, is told of each at
most once, and books it under the protocol of the application that reports it; the
totals are the sums over the protocols. -/
theorem host_accountable : (host U S).Invariant Host.Accountable :=
  fun h hreach => (host_orderly h hreach).accountable

/-- A user with one ping profile, before its first event. -/
def pingHost : Host UdpApp.inetSocket TcpApp.inetSocket where
  user := { cm := 0, id := 9, applications := [.icmpApp] }
  startMessage := true
  udp := ⟨false, 1, UdpApp.INT_MAX, 0, ⟨0, ⟨true, false⟩⟩, ∅, ∅⟩
  tcp := .initializeModule false 0
  icmp := { id := 3, myAddr := 1 }

def pingTurn : Turn where
  supply := ⟨.exact, lastRng, 0, [{ profileID := 21 }]⟩
  sim := ⟨startup twoAs [.registerConnectionManager 0 0, .registerServer 0 7 0 21 40], 0⟩
  draws := fun _ => ⟨0, 100, 1⟩
  sockId := 1
  connId := 1
  q := 0

/-- The first ping goes out, the transmission is reported, and the next one starts. -/
example :
    (TSys.trace (fun h ev => Host.next h pingTurn ev) pingHost
      [.wakeup, .pingTimer pingTurn.draws, .pingTimer pingTurn.draws]).map
        (fun x => (x.2.started, x.2.reports.length,
          x.2.user.communicationStatistics.icmp.bytesSent)) =
      [(1, 0, 0), (1, 0, 0), (2, 1, 100)] := by
  decide +kernel

end ScadaSim.User
