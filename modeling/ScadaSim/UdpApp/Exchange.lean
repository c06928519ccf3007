import ScadaSim.UdpApp.ThreadTable

/-!
# Applications that exchange messages

Any number of applications over a network that delays, reorders, duplicates and
loses messages. What is in flight is kept with its origin; three counters keep
the requests sent, the deliveries of their fragments number 1 and the server
threads created.

* no reply is numbered 1, and each request has one fragment that is;
* so server threads come from requests only, at most one a delivery.
-/

namespace ScadaSim.UdpApp

open Lib GenericUDPApplication

variable {U : UDPSocket}

/-! ## One application -/

namespace Thread

/-- The thread numbers its messages as it should. -/
def Numbering : Thread U → Prop
  | .server v => v.Numbered
  | .client c => c.Fragmenting

theorem Callback.numbering {t t' : Thread U} (h : Callback t t') (ht : t.Numbering) :
    t'.Numbering := by
  cases h with
  | @serverTimer v _ h =>
      exact ((ServerThread.timerExpired_numbered (v := { v with selfMsg := false }) ht).of_ok h).1
  | @clientTimer c draws _ h =>
      have hsame := (ClientThread.timerExpired_same _ draws).of_ok h
      exact le_of_le_of_eq ht hsame.packetsPerRequest.symm
  | @clientLast c _ draws h =>
      have hsame := (c.socketDatagramArrived_same draws).of_ok h
      exact le_of_le_of_eq ht hsame.packetsPerRequest.symm

end Thread

namespace GenericUDPApplication

/-- Every thread numbers its messages as it should. -/
def Numbering (app : GenericUDPApplication U) : Prop :=
  ∀ p t, app.threads.lookup p = some t → t.Numbering

theorem numbering_stable : Stable (Numbering (U := U)) where
  setThread := by
    intro app p t t' h ht hcall
    exact forall_lookup_insert h p (hcall.numbering (h p t ht))
  removeThread := by
    intro app p h
    refine (app.removeThread_spec p).mono ?_
    rintro _ ⟨t, mySocket, -, -, rfl, -⟩
    exact forall_lookup_erase h p
  accept := by
    intro app appmsg q v h hone hv _
    refine forall_lookup_insert ?_ q (hv.numbered hone)
    rw [closeWhenFull_threads]
    exact h
  transmissionStart := by
    intro app p i transmission q c h _ hc _
    exact forall_lookup_insert h q hc.fragmenting

end GenericUDPApplication

/-- What goes out is numbered as it should be. -/
def Sent.Numbering : Sent → Prop
  | .nothing => True
  | .reply fragments => ∀ m ∈ fragments, m.packetNumber ≠ 1
  | .request fragments => (fragments.filter fun m => m.packetNumber = 1).length = 1

namespace GenericUDPApplication

variable {app : GenericUDPApplication U}

theorem silent_sent {x : Except Fault (GenericUDPApplication U)} :
    Post (fun e : Effect U => e.sent.Numbering) (do let app ← x; return { app := app }) :=
  Post.bind_any fun _ => trivial

theorem removeThreadWith_sent (p : ThreadPtr) (transmission : Nat)
    (stat : Traffic.TransmissionStatistics) :
    Post (fun e => e.sent.Numbering) (app.removeThreadWith p transmission stat) :=
  Post.bind_any fun _ => trivial

theorem timerExpired_sent (h : app.Numbering) (p : ThreadPtr) (draws : Nat → Traffic.Draw) :
    Post (fun e => e.sent.Numbering) (app.timerExpired p draws) := by
  unfold timerExpired
  split
  · exact Post.error _
  · rename_i v hv
    have hnumbered : ({ v with selfMsg := false } : ServerThread U).Numbered := h p _ hv
    refine (ServerThread.timerExpired_numbered hnumbered).bind fun r hr => ?_
    split
    · exact hr.2
    · exact silent_sent
  · rename_i c hc
    have hfrag : ({ c with selfMsg := false } : ClientThread U).Fragmenting := h p _ hc
    refine Post.bind_ok fun r hr => ?_
    split
    · exact removeThreadWith_sent ..
    · show Sent.Numbering (if c.threadState = .connected then _ else _)
      split
      · rename_i hstate
        exact (ClientThread.timerExpired_sent hfrag hstate draws).of_ok hr
      · trivial

theorem handleError_sent (ctrl : Option UDPControlInfo) :
    Post (fun e => e.sent.Numbering) (app.handleError ctrl) := by
  unfold handleError
  split
  · exact Post.error _
  · split
    · trivial
    · split
      · exact Post.error _
      · split
        · exact silent_sent
        · split
          · exact removeThreadWith_sent ..
          · exact Post.error _

theorem apply_sent (h : app.Numbering) (a : Action) :
    Post (fun e => e.sent.Numbering) (app.apply a) := by
  cases a with
  | timer p draws => exact timerExpired_sent h p draws
  | error ctrl => exact handleError_sent ctrl
  | message ctrl appmsg draws sockId q => exact silent_sent
  | transmissionStart p i transmission draws sockId q => exact silent_sent
  | removeThread p => exact silent_sent

/-! ### New server threads -/

/-- The server threads of `app'` that `app` does not have. -/
def newServers (app app' : GenericUDPApplication U) : Nat :=
  (app'.threads.entries.filter fun x => Thread.isServer x.2 && decide (x.1 ∉ app.threads)).length

theorem newServers_of_subset {app' : GenericUDPApplication U}
    (h : ∀ p, p ∈ app'.threads → p ∈ app.threads) : app.newServers app' = 0 := by
  unfold newServers
  rw [List.length_eq_zero_iff, List.filter_eq_nil_iff]
  intro x hx
  have hmem : x.1 ∈ app.threads := h x.1 (mem_of_lookup (AList.mem_lookup_iff.mpr hx))
  simp [hmem]

theorem newServers_addThread {app' : GenericUDPApplication U} (hsame : app'.threads = app.threads)
    {q : ThreadPtr} (hq : q ∉ app.threads) (t : Thread U) :
    app.newServers (app'.addThread q t) = if t.isServer then 1 else 0 := by
  have hentries : (app'.addThread q t).threads.entries = ⟨q, t⟩ :: app.threads.entries := by
    show ⟨q, t⟩ :: List.kerase q app'.threads.entries = _
    rw [hsame, List.kerase_of_notMem_keys hq]
  have hold : app.newServers app = 0 := newServers_of_subset fun _ h => h
  unfold newServers at hold ⊢
  rw [List.length_eq_zero_iff] at hold
  rw [hentries, List.filter_cons, hold]
  cases t.isServer <;> simp [hq]

/-- Callbacks and removals make no thread. -/
theorem subset_kept : Kept fun app' : GenericUDPApplication U =>
    ∀ p, p ∈ app'.threads → p ∈ app.threads where
  setThread := by
    intro app' p t t' h ht _ q hq
    rcases AList.mem_insert _ |>.mp hq with rfl | hq
    · exact h _ (mem_of_lookup ht)
    · exact h q hq
  removeThread := by
    intro app' p h
    refine (app'.removeThread_spec p).mono ?_
    rintro _ ⟨t, mySocket, -, -, rfl, -⟩ q hq
    exact h q (AList.mem_erase.mp hq).2

end GenericUDPApplication

/-! ## The network -/

/-- What a message belongs to: the request with this number, of all that are sent,
or a reply. -/
inductive Origin
  | request (n : Nat)
  | reply
  deriving DecidableEq

structure Parcel where
  msg : GenericApplicationMessage
  origin : Origin

structure Exchange (U : UDPSocket) (ι : Type) where
  app : ι → GenericUDPApplication U
  flight : List Parcel
  /-- all that has been in flight -/
  sent : List Parcel
  requests : Nat
  created : Nat
  deliveries : Nat

/-- `event` is anything but the delivery of an application message. A message that is
delivered stays in flight and may be delivered again. -/
inductive Move (ι : Type)
  | event (i : ι) (a : Action)
  | deliver (i : ι) (x : Parcel) (ctrl : Option UDPControlInfo) (draws : Nat → Traffic.Draw)
      (sockId : Int) (q : ThreadPtr)
  | lose (x : Parcel)

def Action.deliversMessage : Action → Bool
  | .message _ appmsg _ _ _ => appmsg.isSome
  | _ => false

def Parcel.isOne (x : Parcel) : Bool := x.msg.packetNumber = 1

/-- The parcel is the fragment number 1 of a request. -/
def Parcel.isRequestOne (x : Parcel) : Bool := x.origin ≠ .reply && x.isOne

namespace Exchange

variable {ι : Type} [DecidableEq ι]

def post (s : Exchange U ι) (origin : Origin) (fragments : List GenericApplicationMessage) :
    Exchange U ι :=
  { s with
    flight := s.flight ++ fragments.map fun m => ⟨m, origin⟩
    sent := s.sent ++ fragments.map fun m => ⟨m, origin⟩ }

def send (s : Exchange U ι) : Sent → Exchange U ι
  | .nothing => s
  | .reply fragments => s.post .reply fragments
  | .request fragments =>
      { s.post (.request s.requests) fragments with requests := s.requests + 1 }

/-- After a step of the application of `i`. -/
def update (s : Exchange U ι) (i : ι) (e : Effect U) : Exchange U ι :=
  send { s with
    app := Function.update s.app i e.app
    created := s.created + (s.app i).newServers e.app } e.sent

def step (s : Exchange U ι) : Move ι → Exchange U ι → Prop
  | .event i a, t =>
      a.deliversMessage = false ∧ (s.app i).Enabled a ∧
        ∃ e, (s.app i).apply a = .ok e ∧ t = s.update i e
  | .deliver i x ctrl draws sockId q, t =>
      x ∈ s.flight ∧ (s.app i).Enabled (.message ctrl (some x.msg) draws sockId q) ∧
        ∃ e, (s.app i).apply (.message ctrl (some x.msg) draws sockId q) = .ok e ∧
          t = { s.update i e with
            deliveries := s.deliveries + if x.isRequestOne then 1 else 0 }
  | .lose x, t =>
      ∃ before after, s.flight = before ++ x :: after ∧ t = { s with flight := before ++ after }

end Exchange

/-- Applications, each initialized with its own parameters, before any message. -/
def exchange (U : UDPSocket) (ι : Type) [DecidableEq ι] : TSys (Exchange U ι) (Move ι) where
  init := fun s =>
    (∀ i, ∃ isServer port noThreads sockId,
      initializeModule isServer port noThreads sockId = .ok (s.app i)) ∧
    s.flight = [] ∧ s.sent = [] ∧ s.requests = 0 ∧ s.created = 0 ∧ s.deliveries = 0
  step := Exchange.step

namespace Exchange

variable {ι : Type}

/-- The fragments number 1 that the request `n` has contributed. -/
def ones (l : List Parcel) (n : Nat) : Nat :=
  (l.filter fun x => decide (x.origin = .request n) && x.isOne).length

theorem ones_append (l : List Parcel) (origin : Origin)
    (fragments : List GenericApplicationMessage) (n : Nat) :
    ones (l ++ fragments.map fun m => ⟨m, origin⟩) n =
      ones l n + if origin = .request n then
        (fragments.filter fun m => m.packetNumber = 1).length else 0 := by
  unfold ones
  rw [List.filter_append, List.length_append]
  congr 1
  split
  · rename_i horigin
    rw [List.filter_map, List.length_map]
    congr 2
    funext m
    simp [horigin, Parcel.isOne]
  · rename_i horigin
    rw [List.length_eq_zero_iff, List.filter_eq_nil_iff]
    intro x hx
    obtain ⟨m, -, rfl⟩ := List.mem_map.mp hx
    simp [horigin]

/-- What has been sent so far is numbered as it should be, and the server threads
are accounted for. -/
structure Sound (s : Exchange U ι) : Prop where
  threads : ∀ i, (s.app i).Numbering
  flight : ∀ x ∈ s.flight, x ∈ s.sent
  replies : ∀ x ∈ s.sent, x.origin = .reply → x.msg.packetNumber ≠ 1
  requests : ∀ n, ones s.sent n = if n < s.requests then 1 else 0
  created : s.created ≤ s.deliveries

variable [DecidableEq ι] {s : Exchange U ι}

omit [DecidableEq ι] in
theorem Sound.send (h : s.Sound) {out : Sent} (hout : out.Numbering) : (s.send out).Sound := by
  have hflight (origin : Origin) (fragments : List GenericApplicationMessage) :
      ∀ x ∈ (s.post origin fragments).flight, x ∈ (s.post origin fragments).sent := by
    intro x hx
    rcases List.mem_append.mp hx with hx | hx
    · exact List.mem_append_left _ (h.flight x hx)
    · exact List.mem_append_right _ hx
  cases out with
  | nothing => exact h
  | reply fragments =>
      refine ⟨h.threads, hflight _ _, ?_, ?_, h.created⟩
      · intro x hx horigin
        rcases List.mem_append.mp hx with hx | hx
        · exact h.replies x hx horigin
        · obtain ⟨m, hm, rfl⟩ := List.mem_map.mp hx
          exact hout m hm
      · intro n
        have hones := ones_append s.sent .reply fragments n
        rw [if_neg (by simp), h.requests n] at hones
        exact hones
  | request fragments =>
      refine ⟨h.threads, hflight _ _, ?_, ?_, h.created⟩
      · intro x hx horigin
        rcases List.mem_append.mp hx with hx | hx
        · exact h.replies x hx horigin
        · obtain ⟨m, hm, rfl⟩ := List.mem_map.mp hx
          cases horigin
      · intro n
        have hones := ones_append s.sent (.request s.requests) fragments n
        -- a request has one fragment numbered 1, and is itself the next one in number
        rw [show (fragments.filter fun m => m.packetNumber = 1).length = 1 from hout,
          h.requests n] at hones
        show ones (s.sent ++ _) n = if n < s.requests + 1 then 1 else 0
        rw [hones]
        simp only [Origin.request.injEq]
        split_ifs <;> omega

/-- A step of one application, with as many deliveries as it makes server threads
at least. -/
theorem Sound.update (h : s.Sound) {i : ι} {a : Action} {e : Effect U}
    (ha : (s.app i).Enabled a) (hok : (s.app i).apply a = .ok e) {d : Nat}
    (hd : (s.app i).newServers e.app ≤ d) :
    Sound { s.update i e with deliveries := s.deliveries + d } := by
  have hnumbering : e.app.Numbering := (numbering_stable.apply (h.threads i) ha).of_ok hok
  have hmid : Sound { s with
      app := Function.update s.app i e.app
      created := s.created + (s.app i).newServers e.app
      deliveries := s.deliveries + d } := by
    refine ⟨?_, h.flight, h.replies, h.requests, ?_⟩
    · intro j
      by_cases hj : j = i
      · subst hj
        show Numbering (Function.update s.app j e.app j)
        rw [Function.update_self]
        exact hnumbering
      · show Numbering (Function.update s.app i e.app j)
        rw [Function.update_of_ne hj]
        exact h.threads j
    · have hcreated := h.created
      show s.created + _ ≤ s.deliveries + d
      omega
  have hsent := hmid.send ((apply_sent (h.threads i) a).of_ok hok)
  unfold Exchange.update
  cases hout : e.sent <;> rw [hout] at hsent <;> exact hsent

end Exchange

namespace GenericUDPApplication

variable {app : GenericUDPApplication U}

theorem event_newServers {a : Action} (hevent : a.deliversMessage = false) (ha : app.Enabled a) :
    Post (fun e => app.newServers e.app = 0) (app.apply a) := by
  have hkeep {x : Except Fault (Effect U)}
      (h : Post (fun e => ∀ p, p ∈ e.app.threads → p ∈ app.threads) x) :
      Post (fun e => app.newServers e.app = 0) x :=
    h.mono fun _ hsub => newServers_of_subset hsub
  have hself : ∀ p, p ∈ app.threads → p ∈ app.threads := fun _ hp => hp
  cases a with
  | timer p draws => exact hkeep (subset_kept.timerExpired hself p draws)
  | error ctrl => exact hkeep (subset_kept.handleError hself ctrl)
  | message ctrl appmsg draws sockId q =>
      cases appmsg with
      | none => exact hkeep (Ensures.ok_iff.mpr hself)
      | some appmsg => cases hevent
  | transmissionStart p i transmission draws sockId q =>
      refine silent (P := fun app' => app.newServers app' = 0)
        ((app.transmissionStart_spec p i transmission draws sockId q).mono ?_)
      rintro _ ⟨-, c, -, -, rfl⟩
      rw [newServers_addThread rfl ha.2.1]
      rfl
  | removeThread p => exact hkeep (silent (subset_kept.removeThread app p hself))

/-- A message makes a server thread only if it is numbered 1, and then one. -/
theorem message_newServers {ctrl : Option UDPControlInfo} {appmsg : GenericApplicationMessage}
    {draws : Nat → Traffic.Draw} {sockId : Int} {q : ThreadPtr}
    (ha : app.Enabled (.message ctrl (some appmsg) draws sockId q)) :
    Post (fun e => app.newServers e.app ≤ if appmsg.packetNumber = 1 then 1 else 0)
      (app.apply (.message ctrl (some appmsg) draws sockId q)) := by
  refine silent (P := fun app' => app.newServers app' ≤ if appmsg.packetNumber = 1 then 1 else 0) ?_
  show Post _ (ite _ _ _)
  by_cases hone : appmsg.packetNumber = 1
  · rw [if_pos hone, if_pos hone]
    cases ctrl with
    | none => exact Post.error _
    | some ctrl =>
        refine (app.accept_spec ctrl appmsg sockId q).mono ?_
        rintro _ ⟨v, -, -, rfl⟩
        exact le_of_eq (newServers_addThread app.closeWhenFull_threads ha.2.1 _)
  · rw [if_neg hone, if_neg hone]
    have hself : ∀ p, p ∈ app.threads → p ∈ app.threads := fun _ hp => hp
    split
    · exact (subset_kept.handleLast hself ctrl draws).mono fun _ hsub =>
        le_of_eq (newServers_of_subset hsub)
    · exact le_of_eq (newServers_of_subset hself)

end GenericUDPApplication

/-! ## Runs -/

section Runs

variable {ι : Type} [DecidableEq ι]

theorem sound_init {s : Exchange U ι} (h : (exchange U ι).init s) : s.Sound := by
  obtain ⟨happs, hflight, hsent, hrequests, hcreated, -⟩ := h
  refine ⟨?_, ?_, ?_, ?_, ?_⟩
  · intro i
    obtain ⟨isServer, port, noThreads, sockId, hok⟩ := happs i
    have hthreads := ((initializeModule_spec isServer port noThreads sockId).of_ok hok).2.2.2.1
    unfold GenericUDPApplication.Numbering
    rw [hthreads]
    exact forall_lookup_empty
  · rw [hflight]
    exact fun _ hx => absurd hx List.not_mem_nil
  · rw [hsent]
    exact fun _ hx => absurd hx List.not_mem_nil
  · intro n
    rw [hsent, hrequests]
    rfl
  · rw [hcreated]
    exact Nat.zero_le _

theorem sound_step {s t : Exchange U ι} {m : Move ι} (h : s.Sound)
    (hstep : (exchange U ι).step s m t) : t.Sound := by
  cases m with
  | event i a =>
      obtain ⟨hevent, ha, e, hok, rfl⟩ := hstep
      have hnew := (event_newServers hevent ha).of_ok hok
      have hsound := h.update ha hok (d := 0) (le_of_eq hnew)
      unfold Exchange.update at hsound ⊢
      cases hout : e.sent <;> rw [hout] at hsound <;> exact hsound
  | deliver i x ctrl draws sockId q =>
      obtain ⟨hx, ha, e, hok, rfl⟩ := hstep
      refine h.update ha hok (((message_newServers ha).of_ok hok).trans ?_)
      by_cases hone : x.msg.packetNumber = 1
      · have horigin : x.origin ≠ .reply := fun hreply => h.replies x (h.flight x hx) hreply hone
        simp [hone, horigin, Parcel.isRequestOne, Parcel.isOne]
      · simp [hone]
  | lose x =>
      obtain ⟨before, after, hflight, rfl⟩ := hstep
      refine ⟨h.threads, ?_, h.replies, h.requests, h.created⟩
      intro y hy
      apply h.flight y
      rw [hflight]
      rcases List.mem_append.mp hy with hy | hy
      · exact List.mem_append_left _ hy
      · exact List.mem_append_right _ (List.mem_cons_of_mem _ hy)

/-- What is in flight with number 1 comes from requests; each request contributes one
such fragment and no reply any, and no more server threads are created than such
fragments are delivered. -/
theorem replies_start_no_server : (exchange U ι).Invariant fun s =>
    (∀ x ∈ s.flight, x.msg.packetNumber = 1 → ∃ n < s.requests, x.origin = .request n) ∧
      (∀ n < s.requests,
        (s.sent.filter fun x => decide (x.origin = .request n) && x.isOne).length = 1) ∧
      (∀ x ∈ s.sent, x.origin = .reply → x.msg.packetNumber ≠ 1) ∧
      s.created ≤ s.deliveries := by
  intro s hs
  have hsound : s.Sound := TSys.Inductive.invariant
    { init := fun _ h => sound_init h
      step := fun _ _ _ h hstep => sound_step h hstep } s hs
  refine ⟨?_, ?_, hsound.replies, hsound.created⟩
  · intro x hx hone
    have hsent := hsound.flight x hx
    cases horigin : x.origin with
    | reply => exact absurd hone (hsound.replies x hsent horigin)
    | request n =>
        refine ⟨n, ?_, rfl⟩
        have hones := hsound.requests n
        by_contra hn
        rw [if_neg hn] at hones
        unfold Exchange.ones at hones
        rw [List.length_eq_zero_iff, List.filter_eq_nil_iff] at hones
        exact hones x hsent (by simp [horigin, Parcel.isOne, hone])
  · intro n hn
    exact (hsound.requests n).trans (if_pos hn)

end Runs

end ScadaSim.UdpApp
