import ScadaSim.Ip.Trace

/-!
# Where datagrams come from

What `encapsulate` lets pass, over whole runs. Where spoofing is not allowed, every
datagram of the higher layers has an address of the node for its source, or none; in any
case it is what its control information says. Identifications are counted up in an `int`,
so that no two are the same among `2 ^ 32` datagrams in a row. A datagram that is forwarded
is the one that came, a hop later.
-/

namespace ScadaSim.Ip

open Lib Traffic Attack Routing

/-- The datagram that is routed, and whether it is from the higher layers. -/
def Action.routed : Action → Option (Datagram × Bool)
  | .routePacket d _ fromHL => some (d, fromHL)
  | .routeMulticastPacket d _ fromHL => some (d, fromHL)
  | _ => none

/-- A packet of the transport layer with the datagram that was made for it. -/
def Observed.sent : Observed → Option (TransportPacket × Datagram)
  | .served _ msg action =>
      match msg.message, action.routed with
      | .transport packet, some (d, true) => some (packet, d)
      | _, _ => none
  | .traceMsg _ => none

/-- A datagram that came with the one that was routed. -/
def Observed.forwarded : Observed → Option (Datagram × Datagram)
  | .served _ msg action =>
      match msg.message, action.routed with
      | .datagram d, some (d', false) => some (d, d')
      | _, _ => none
  | .traceMsg _ => none

/-- The latest first. -/
def sent (history : List Observed) : List (TransportPacket × Datagram) :=
  history.filterMap Observed.sent

/-- What the datagram of a packet has to be. -/
structure Encapsulates (node : Node) (spoofingAllowed : Bool) (packet : TransportPacket)
    (d : Datagram) (ctrl : ControlInfo) : Prop where
  controlInfo : packet.controlInfo = some ctrl
  destAddress : d.destAddress = ctrl.destAddr
  srcAddress : d.srcAddress = ctrl.srcAddr
  honest : spoofingAllowed = false → d.srcAddress ≠ 0 →
    ∃ interface, node.interfaceByAddress d.srcAddress = some interface
  transportProtocol : d.transportProtocol = ctrl.protocol
  attackTag : d.attackTag = ctrl.attackTag.getD 0
  byteLength : d.byteLength = d.headerLength + packet.byteLength
  timeToLive : 0 < node.defaultTimeToLive → 0 < node.defaultMCTimeToLive → 0 < d.timeToLive

/-- A hop later, and without an option that is not known. -/
structure Forwards (d d' : Datagram) : Prop where
  hop : d' = { d with timeToLive := d.timeToLive - 1 }
  option : ∀ number, d.optionCode ≠ .other number

structure Accountable (node : Node) (par : Parameters) (firstId : Int) (w : World) : Prop where
  sent : ∀ p ∈ sent w.history, ∃ ctrl, Encapsulates node par.spoofingOn p.1 p.2 ctrl
  identifications : (Ip.sent w.history).map (fun p => p.2.identification) =
    (List.range (Ip.sent w.history).length).reverse.map fun k : Nat => int32 (firstId + (k : Int))
  distinct : ∀ i j : Nat, i < j → j < i + 4294967296 → ∀ p ∈ (Ip.sent w.history)[i]?,
    ∀ q ∈ (Ip.sent w.history)[j]?, p.2.identification ≠ q.2.identification
  forwarded : ∀ p ∈ w.history.filterMap Observed.forwarded, Forwards p.1 p.2

/-! ## One message -/

/-- What becomes of a message that is served without an error. -/
inductive Served (node : Node) (s : IP_hack) : Arrived → IP_hack × Action → Prop
  | sends {gate : String} {packet : TransportPacket} {d : Datagram} {ctrl : ControlInfo}
      {action : Action} : action.routed = some (d, true) →
      Encapsulates node s.spoofingAllowed packet d ctrl → d.identification = s.curFragmentId →
      Served node s ⟨gate, .transport packet⟩
        ({ s with curFragmentId := int32 (s.curFragmentId + 1) }, action)
  | forwards {gate : String} {d d' : Datagram} {s' : IP_hack} {action : Action} :
      action.routed = some (d', false) → Forwards d d' → s'.curFragmentId = s.curFragmentId →
      s'.spoofingAllowed = s.spoofingAllowed → Served node s ⟨gate, .datagram d⟩ (s', action)
  | keeps {msg : Arrived} {s' : IP_hack} {action : Action} : action.routed = none →
      s'.curFragmentId = s.curFragmentId → s'.spoofingAllowed = s.spoofingAllowed →
      Served node s msg (s', action)

namespace IP_hack

variable {node : Node} {s : IP_hack} {r : IP_hack × Action} {gate : String}

theorem encapsulate_spec {packet : TransportPacket} {x : IP_hack × Datagram × Option Nat}
    (h : s.encapsulate node packet = .ok x) :
    x.1 = { s with curFragmentId := int32 (s.curFragmentId + 1) } ∧
      x.2.1.identification = s.curFragmentId ∧
      ∃ ctrl, Encapsulates node s.spoofingAllowed packet x.2.1 ctrl := by
  unfold encapsulate at h
  cases hctrl : packet.controlInfo with
  | none =>
      rw [hctrl] at h
      cases h
  | some ctrl =>
      rw [hctrl] at h
      simp only [Option.elim_some, ok_bind] at h
      split at h
      · cases h
      · rename_i hallowed
        cases h
        refine ⟨rfl, rfl, ctrl, ?_⟩
        exact
          { controlInfo := hctrl
            destAddress := rfl
            srcAddress := rfl
            honest := by
              intro hspoofing hgiven
              by_contra hforeign
              have hnone : node.interfaceByAddress ctrl.srcAddr = none :=
                Option.eq_none_iff_forall_ne_some.mpr fun i hi => hforeign ⟨i, hi⟩
              exact hallowed ⟨hgiven, hnone, by rw [hspoofing]; exact Bool.false_ne_true⟩
            transportProtocol := rfl
            attackTag := rfl
            byteLength := rfl
            timeToLive := by
              intro hdefault hmulticast
              dsimp only
              split
              · assumption
              · split
                · exact hmulticast
                · exact hdefault }

theorem handleMessageFromHL_served {packet : TransportPacket}
    (h : s.handleMessageFromHL node packet = .ok r) :
    Served node s ⟨gate, .transport packet⟩ r := by
  unfold handleMessageFromHL at h
  split at h
  · cases h
    exact .keeps rfl rfl rfl
  · cases hx : s.encapsulate node packet with
    | error e =>
        rw [hx] at h
        cases h
    | ok x =>
        obtain ⟨s', d, destIE⟩ := x
        obtain ⟨hs', hid, ctrl, hd⟩ := encapsulate_spec hx
        dsimp only at hs' hid hd
        rw [hx, ok_bind] at h
        dsimp only at h
        split at h
        · cases h
          rw [hs']
          exact .sends rfl hd hid
        · cases h
          rw [hs']
          exact .sends rfl hd hid

theorem count_same (p : Protocol) : (s.count p).curFragmentId = s.curFragmentId ∧
    (s.count p).spoofingAllowed = s.spoofingAllowed := by
  unfold count
  split
  · cases p <;> exact ⟨rfl, rfl⟩
  · exact ⟨rfl, rfl⟩

theorem processPacket_spec {d : Datagram} (h : s.processPacket d true = .ok r) :
    (∀ number, d.optionCode ≠ .other number) ∧ r.2.routed = some (d, false) := by
  have hroute : (if ¬ isMulticast d.destAddress then (s, Action.routePacket d none false)
      else (s, .routeMulticastPacket d none false)).2.routed = some (d, false) := by
    split
    · rfl
    · rfl
  unfold processPacket at h
  dsimp only at h
  rw [if_pos rfl] at h
  split at h
  · cases h
  · rename_i hknown
    cases h
    exact ⟨hknown, hroute⟩

theorem handlePacketFromNetwork_served {d : Datagram} {draw : Rat}
    (h : s.handlePacketFromNetwork d draw = .ok r) :
    Served node s ⟨gate, .datagram d⟩ r := by
  obtain ⟨hid, hspoofing⟩ := count_same (s := s) d.transportProtocol
  have hmodule := handlePacketFromNetwork_module h
  obtain ⟨s', action⟩ := r
  obtain rfl : s' = s.count d.transportProtocol := hmodule
  unfold handlePacketFromNetwork at h
  dsimp only at h
  split at h
  · cases h
    exact .keeps rfl hid hspoofing
  · obtain ⟨hoption, hrouted⟩ := processPacket_spec h
    exact .forwards hrouted ⟨rfl, hoption⟩ hid hspoofing

theorem endService_served {msg : Arrived} {draw : Rat}
    (h : s.endService node msg draw = .ok r) : Served node s msg r := by
  obtain ⟨gate, message⟩ := msg
  unfold endService at h
  dsimp only at h
  split at h
  · cases message with
    | transport packet => exact handleMessageFromHL_served h
    | arpPacket =>
        dsimp only at h
        split at h
        · cases h
          exact .keeps rfl rfl rfl
        · cases h
    | datagram d =>
        dsimp only at h
        split at h
        · cases h
          exact .keeps rfl rfl rfl
        · cases h
  · cases message with
    | transport packet =>
        dsimp only at h
        split at h
        · cases h
        · cases h
    | arpPacket =>
        cases h
        exact .keeps rfl rfl rfl
    | datagram d =>
        dsimp only at h
        split at h
        · exact handlePacketFromNetwork_served h
        · cases h

end IP_hack

/-! ## Whole runs -/

variable {node : Node} {par : Parameters} {firstId : Int} {w w' : World} {e : Event}

/-- Numbers that are counted up in an `int` come again after `2 ^ 32` of them only. -/
theorem counted_distinct {ids : List Int} (hids : ids =
    (List.range ids.length).reverse.map fun k : Nat => int32 (firstId + (k : Int)))
    {i j : Nat} (hij : i < j) (hclose : j < i + 4294967296) {x y : Int} (hx : ids[i]? = some x)
    (hy : ids[j]? = some y) : x ≠ y := by
  have hat : ∀ (k : Nat) {z : Int}, ids[k]? = some z →
      k < ids.length ∧ z = int32 (firstId + ((ids.length - 1 - k : Nat) : Int)) := by
    intro k z hz
    obtain ⟨hk, -⟩ := List.getElem?_eq_some_iff.mp hz
    have hlen : k < (List.range ids.length).length := by rwa [List.length_range]
    rw [hids, List.getElem?_map, List.getElem?_reverse hlen, List.length_range,
      List.getElem?_range (by omega)] at hz
    exact ⟨hk, (Option.some.inj hz).symm⟩
  obtain ⟨-, rfl⟩ := hat i hx
  obtain ⟨hj, rfl⟩ := hat j hy
  intro hsame
  have hmod := int32_add_eq_iff.mp hsame
  omega

/-- What holds in every state. That the numbers differ follows. -/
structure Marked (node : Node) (par : Parameters) (firstId : Int) (w : World) : Prop where
  sources : ∀ p ∈ sent w.history, ∃ ctrl, Encapsulates node par.spoofingOn p.1 p.2 ctrl
  identifications : (sent w.history).map (fun p => p.2.identification) =
    (List.range (sent w.history).length).reverse.map fun k : Nat => int32 (firstId + (k : Int))
  forwarded : ∀ p ∈ w.history.filterMap Observed.forwarded, Forwards p.1 p.2
  spoofing : w.module.spoofingAllowed = par.spoofingOn
  nextId : w.module.curFragmentId = int32 (firstId + ((sent w.history).length : Int))

theorem Marked.accountable (h : Marked node par firstId w) :
    Accountable node par firstId w where
  sent := h.sources
  identifications := h.identifications
  distinct := by
    intro i j hij hclose p hp q hq
    have hat : ∀ {k : Nat} {x : TransportPacket × Datagram}, x ∈ (Ip.sent w.history)[k]? →
        ((Ip.sent w.history).map fun p => p.2.identification)[k]? = some x.2.identification := by
      intro k x hx
      rw [List.getElem?_map, Option.mem_def.mp hx]
      rfl
    refine counted_distinct (?_ : _ = List.map (fun k : Nat => int32 (firstId + (k : Int))) _)
      hij hclose (hat hp) (hat hq)
    rw [List.length_map]
    exact h.identifications
  forwarded := h.forwarded

/-- Observations that are neither sent nor forwarded make no difference. -/
theorem Marked.quiet (h : Marked node par firstId w) {s : IP_hack} {o : Observed} (t : Rat)
    (hsent : o.sent = none) (hforwarded : o.forwarded = none)
    (hspoofing : s.spoofingAllowed = w.module.spoofingAllowed)
    (hid : s.curFragmentId = w.module.curFragmentId) :
    Marked node par firstId { w with now := t, module := s, history := o :: w.history } := by
  have hsame : sent (o :: w.history) = sent w.history := List.filterMap_cons_none hsent
  exact
    { sources := fun p hp => h.sources p (by rw [hsame] at hp; exact hp)
      identifications := by
        dsimp only
        rw [hsame]
        exact h.identifications
      forwarded := fun p hp => h.forwarded p (by
        rw [List.filterMap_cons_none hforwarded] at hp
        exact hp)
      spoofing := hspoofing.trans h.spoofing
      nextId := by
        dsimp only
        rw [hsame, hid]
        exact h.nextId }

theorem Marked.served (h : Marked node par firstId w) {msg : Arrived} {r : IP_hack × Action}
    (t : Rat) (hr : Served node w.module msg r) : Marked node par firstId
      { w with now := t, module := r.1, history := .served t msg r.2 :: w.history } := by
  cases hr with
  | sends hrouted hd hid =>
      rename_i gate packet d ctrl action
      have hsent : Observed.sent (.served t ⟨gate, .transport packet⟩ action) =
          some (packet, d) := by
        simp only [Observed.sent, hrouted]
      have hcons : sent (.served t ⟨gate, .transport packet⟩ action :: w.history) =
          (packet, d) :: sent w.history := List.filterMap_cons_some hsent
      rw [h.spoofing] at hd
      rw [h.nextId] at hid
      exact
        { sources := by
            intro p hp
            dsimp only at hp
            rw [hcons] at hp
            rcases List.mem_cons.mp hp with rfl | hold
            · exact ⟨ctrl, hd⟩
            · exact h.sources p hold
          identifications := by
            dsimp only
            rw [hcons, List.map_cons, List.length_cons, List.range_succ, List.reverse_append,
              List.reverse_singleton, List.singleton_append, List.map_cons,
              ← h.identifications]
            exact congrArg (· :: _) hid
          forwarded := h.forwarded
          spoofing := h.spoofing
          nextId := by
            dsimp only
            rw [hcons, List.length_cons, h.nextId, int32_int32_add, Nat.cast_succ, add_assoc] }
  | forwards hrouted hd hid hspoofing =>
      rename_i gate d d' s' action
      have hsent : Observed.sent (.served t ⟨gate, .datagram d⟩ action) = none := by
        simp only [Observed.sent]
      have hforwarded : Observed.forwarded (.served t ⟨gate, .datagram d⟩ action) =
          some (d, d') := by
        simp only [Observed.forwarded, hrouted]
      have hsame : sent (.served t ⟨gate, .datagram d⟩ action :: w.history) = sent w.history :=
        List.filterMap_cons_none hsent
      exact
        { sources := fun p hp => h.sources p (by rw [hsame] at hp; exact hp)
          identifications := by
            dsimp only
            rw [hsame]
            exact h.identifications
          forwarded := by
            intro p hp
            dsimp only at hp
            rw [List.filterMap_cons_some hforwarded] at hp
            rcases List.mem_cons.mp hp with rfl | hold
            · exact hd
            · exact h.forwarded p hold
          spoofing := hspoofing.trans h.spoofing
          nextId := by
            dsimp only
            rw [hsame, hid]
            exact h.nextId }
  | keeps hrouted hid hspoofing =>
      refine h.quiet t ?_ ?_ hspoofing hid
      · simp only [Observed.sent, hrouted]
        cases msg.message <;> rfl
      · simp only [Observed.forwarded, hrouted]
        cases msg.message <;> rfl

theorem Marked.init {curFragmentId : Int} {start : Rat} {s : IP_hack}
    (h : IP_hack.initializeModule par start curFragmentId = .ok s) :
    Marked node par curFragmentId { now := start, module := s } := by
  have hs : s.spoofingAllowed = par.spoofingOn ∧ s.curFragmentId = int32 curFragmentId := by
    unfold IP_hack.initializeModule at h
    dsimp only at h
    split at h
    · cases htimer : IP_hack.scheduled (if par.traceStartTime ≤ 0 then
          scheduleAt none start par.tracingInterval
          else scheduleAt none start par.traceStartTime) with
      | error e =>
          rw [htimer] at h
          cases h
      | ok timer =>
          rw [htimer] at h
          cases h
          exact ⟨rfl, rfl⟩
    · cases h
      exact ⟨rfl, rfl⟩
  exact
    { sources := fun _ hp => absurd hp List.not_mem_nil
      identifications := rfl
      forwarded := fun _ hp => absurd hp List.not_mem_nil
      spoofing := hs.1
      nextId := hs.2.trans (congrArg int32 (add_zero curFragmentId).symm) }

theorem handleTraceMsg_marked {s s' : IP_hack} {t : Rat} (h : s.handleTraceMsg t = .ok s') :
    s'.spoofingAllowed = s.spoofingAllowed ∧ s'.curFragmentId = s.curFragmentId := by
  unfold IP_hack.handleTraceMsg at h
  dsimp only at h
  cases htimer : IP_hack.scheduled (scheduleAt none t s.traceInterval) with
  | error e =>
      split at h
      · rw [htimer] at h
        cases h
      · split at h
        · dsimp only at h
          rw [htimer] at h
          cases h
        · dsimp only at h
          rw [htimer] at h
          cases h
  | ok timer =>
      split at h
      · rw [htimer] at h
        cases h
        exact ⟨rfl, rfl⟩
      · split at h
        · dsimp only at h
          rw [htimer] at h
          cases h
          exact ⟨rfl, rfl⟩
        · dsimp only at h
          rw [htimer] at h
          cases h
          exact ⟨rfl, rfl⟩

theorem Marked.step (h : Marked node par firstId w) (hstep : (system node par).step w e w') :
    Marked node par firstId w' := by
  rcases step_cases hstep with ⟨e, rfl⟩ | ⟨t, s, htimer, hnow, hs, rfl⟩ |
    ⟨t, msg, draw, r, hnow, hr, rfl⟩
  · exact ⟨h.sources, h.identifications, h.forwarded, h.spoofing, h.nextId⟩
  · obtain ⟨hspoofing, hid⟩ := handleTraceMsg_marked hs
    exact h.quiet t rfl rfl hspoofing hid
  · exact h.served t (IP_hack.endService_served hr)

/-- In every run of a node the datagrams that it sends and forwards are accounted for. -/
theorem always_accountable {curFragmentId : Int} {start : Rat} {s : IP_hack}
    {run : List (Event × World)} (hinit : IP_hack.initializeModule par start curFragmentId = .ok s)
    (hrun : (system node par).Run { now := start, module := s } run) :
    TSys.Always (Accountable node par curFragmentId) { now := start, module := s } run :=
  (hrun.always (fun _ _ _ h hstep => h.step hstep) (Marked.init hinit)).mono
    fun _ h => h.accountable

/-- A node with one interface. -/
def oneInterface : Node where
  numInterfaces := 1
  interfaceById _ := none
  interfaceByAddress a := if a = 0x0A000001 then some 0 else none
  defaultTimeToLive := 32
  defaultMCTimeToLive := 32

/-- Without tracing and spoofing. -/
def honestHost : Parameters where
  spoofingOn := false
  tracingOn := false
  tracingInterval := 0
  traceStartTime := 0

/-- A request for the wire, from the address `srcAddr`. -/
def requestFrom (srcAddr : IPAddress) : Arrived where
  arrivalGate := "transportIn"
  message := .transport
    { className := "TCPSegment"
      fullName := "SYN"
      byteLength := 20
      controlInfo := some
        { srcAddr := srcAddr
          destAddr := 0x0A010001
          interfaceId := -1
          protocol := .tcp
          diffServCodePoint := 0
          timeToLive := 0
          dontFragment := false
          attackTag := none } }

/-- A datagram of another node that passes. -/
def passing : Arrived where
  arrivalGate := "queueIn"
  message := .datagram
    { byteLength := 528
      srcAddress := 0x0A010001
      destAddress := 0x0A000002
      transportProtocol := .udp
      timeToLive := 30
      diffServCodePoint := 0
      identification := 7
      dontFragment := false }

/-- The first two are sent, the third is forwarded, and the last one is refused. -/
def honestHostEvents : List Event :=
  [.endService 1 (requestFrom 0x0A000001) 0, .endService 2 (requestFrom 0) 0,
    .endService 3 passing 1, .endService 4 (requestFrom 0x0B000001) 0]

/-- The counter of the base class is at the last number of an `int`. -/
def honestHostOpened : World := { now := 0, module := { curFragmentId := 2147483647 } }

theorem always_accountable_honestHost :
    TSys.Always (Accountable oneInterface honestHost 2147483647) honestHostOpened
      (TSys.trace (World.next oneInterface) honestHostOpened honestHostEvents) :=
  always_accountable (s := { curFragmentId := 2147483647 }) rfl
    (TSys.run_trace (fun _ _ _ => World.next_step) _ _)

/-- The counter wraps from the first to the second, and the third is a hop later. -/
example :
    let w := TSys.finish honestHostOpened
      (TSys.trace (World.next oneInterface) honestHostOpened honestHostEvents)
    (sent w.history).map (fun p => p.2.identification) = [-2147483648, 2147483647] ∧
      (w.history.filterMap Observed.forwarded).map (fun p => p.2.timeToLive) = [29] := by
  decide +kernel

end ScadaSim.Ip
