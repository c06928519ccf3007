import Mathlib.Tactic.Ring
import ScadaSim.Ip.IPHack

/-!
# What a traced router writes down

`Histogram` is what the trace is for: one value for each interval that has ended, the
number of datagrams the network has brought in it, and of those of each protocol. What
comes before the first trace message is left out of the vectors, but not of the scalars.

`always_histogram`: this is what a router writes in every run, whatever comes and in
whatever order it is served.
-/

namespace ScadaSim.Ip

open Lib Traffic Attack

/-- The datagram, of a message that is one from the network. -/
def Arrived.fromNetwork (msg : Arrived) : Option Datagram :=
  match msg.message with
  | .datagram datagram => if msg.arrivalGate = "queueIn" then some datagram else none
  | _ => none

/-- The four vectors and scalars. -/
inductive Series
  | total | icmp | tcp | udp
  deriving DecidableEq

namespace Series

/-- Which datagrams are counted. -/
def counts : Series → Protocol → Bool
  | .total, _ => true
  | .icmp, p => p == .icmp
  | .tcp, p => p == .tcp
  | .udp, p => p == .udp

def trace : Series → IP_hack → Int
  | .total, s => s.totalTrace
  | .icmp, s => s.icmpTrace
  | .tcp, s => s.tcpTrace
  | .udp, s => s.udpTrace

def packets : Series → IP_hack → Int
  | .total, s => s.totalPackets
  | .icmp, s => s.icmpPackets
  | .tcp, s => s.tcpPackets
  | .udp, s => s.udpPackets

def vector : Series → IP_hack → List (Rat × Int)
  | .total, s => s.output
  | .icmp, s => s.icmpout
  | .tcp, s => s.tcpout
  | .udp, s => s.udpout

/-- The number in an `int`. -/
def value (c : Series) (traffic : List (Rat × Datagram)) : Int :=
  int32 (traffic.countP fun d => c.counts d.2.transportProtocol)

end Series

/-! ## The intervals of a history -/

/-- The datagram with the time, if the message is one from the network. -/
def heard (t : Rat) (msg : Arrived) : List (Rat × Datagram) :=
  (msg.fromNetwork.map (Prod.mk t)).toList

/-- What the network has brought since the last trace message. -/
def since : List Observed → List (Rat × Datagram)
  | [] => []
  | .traceMsg _ :: _ => []
  | .served t msg _ :: past => heard t msg ++ since past

/-- All that the network has brought. -/
def received : List Observed → List (Rat × Datagram)
  | [] => []
  | .traceMsg _ :: past => received past
  | .served t msg _ :: past => heard t msg ++ received past

structure Interval where
  endsAt : Rat
  traffic : List (Rat × Datagram)

/-- The intervals that have ended, the latest first. -/
def intervals : List Observed → List Interval
  | [] => []
  | .traceMsg t :: past => ⟨t, since past⟩ :: intervals past
  | .served _ _ _ :: past => intervals past

/-- The first trace message starts the trace. -/
def traced (history : List Observed) : List Interval := (intervals history).dropLast

/-- When the first trace message comes. -/
def firstAt (par : Parameters) (start : Rat) : Rat :=
  if par.traceStartTime ≤ 0 then start + par.tracingInterval else start + par.traceStartTime

/-- The end of the `k`-th interval. -/
def tick (par : Parameters) (start : Rat) (k : Nat) : Rat :=
  firstAt par start + k * par.tracingInterval

structure Histogram (par : Parameters) (start : Rat) (w : World) : Prop where
  times : (intervals w.history).map Interval.endsAt =
    (List.range (intervals w.history).length).reverse.map (tick par start)
  vectors : ∀ c : Series, c.vector w.module =
    (traced w.history).map fun i => (i.endsAt, c.value i.traffic)
  within : ∀ i ∈ traced w.history, ∀ d ∈ i.traffic,
    i.endsAt - par.tracingInterval ≤ d.1 ∧ d.1 ≤ i.endsAt
  scalars : ∀ c : Series, c.packets w.module = c.value (received w.history)
  scheduled : w.module.traceMsg = some (tick par start (intervals w.history).length)

/-- What is recorded at the end, by the histogram. -/
theorem Histogram.finish {par : Parameters} {start : Rat} {w : World}
    (h : Histogram par start w) : w.module.finish =
      [("Total packets", Series.total.value (received w.history)),
        ("TCP packets", Series.tcp.value (received w.history)),
        ("UDP packets", Series.udp.value (received w.history)),
        ("ICMP packets", Series.icmp.value (received w.history))] := by
  rw [← h.scalars .total, ← h.scalars .tcp, ← h.scalars .udp, ← h.scalars .icmp]
  rfl

/-! ## The counters -/

namespace IP_hack

variable {node : Node} {s : IP_hack} {r : IP_hack × Action} {msg : Arrived} {draw : Rat}

/-- The counters after a message. -/
def counted (s : IP_hack) (msg : Arrived) : IP_hack :=
  match msg.fromNetwork with
  | some datagram => s.count datagram.transportProtocol
  | none => s

theorem processPacket_module {datagram : Datagram} {checkOpts : Bool}
    (h : s.processPacket datagram checkOpts = .ok r) : r.1 = s := by
  have hroute : (if ¬ isMulticast datagram.destAddress then
      (s, Action.routePacket datagram none false)
      else (s, .routeMulticastPacket datagram none false)).1 = s := by
    split
    · rfl
    · rfl
  unfold processPacket at h
  dsimp only at h
  split at h
  · split at h
    · cases h
    · cases h
      exact hroute
  · cases h
    exact hroute

theorem handlePacketFromNetwork_module {datagram : Datagram}
    (h : s.handlePacketFromNetwork datagram draw = .ok r) :
    r.1 = s.count datagram.transportProtocol := by
  unfold handlePacketFromNetwork at h
  dsimp only at h
  split at h
  · cases h
    rfl
  · exact processPacket_module h

theorem handleMessageFromHL_module {packet : TransportPacket}
    (h : s.handleMessageFromHL node packet = .ok r) :
    ∃ id, r.1 = { s with curFragmentId := id } := by
  unfold handleMessageFromHL at h
  split at h
  · cases h
    exact ⟨s.curFragmentId, rfl⟩
  · unfold encapsulate at h
    cases hctrl : packet.controlInfo with
    | none =>
        rw [hctrl] at h
        cases h
    | some ctrl =>
        rw [hctrl] at h
        simp only [Option.elim_some, ok_bind] at h
        split at h
        · cases h
        · refine ⟨int32 (s.curFragmentId + 1), ?_⟩
          simp only [pure, Except.pure, ok_bind] at h
          split at h
          · cases h
            rfl
          · cases h
            rfl

/-- Apart from the counters a message changes the next identification only. -/
theorem endService_module (h : s.endService node msg draw = .ok r) :
    ∃ id, r.1 = { s.counted msg with curFragmentId := id } := by
  unfold endService at h
  unfold counted Arrived.fromNetwork
  split at h
  · rename_i hgate
    have hother : msg.arrivalGate ≠ "queueIn" := by rw [hgate]; decide
    simp only [if_neg hother]
    cases hmsg : msg.message with
    | transport packet =>
        rw [hmsg] at h
        exact handleMessageFromHL_module h
    | arpPacket =>
        rw [hmsg] at h
        dsimp only at h
        split at h
        · cases h
          exact ⟨s.curFragmentId, rfl⟩
        · cases h
    | datagram datagram =>
        rw [hmsg] at h
        dsimp only at h
        split at h
        · cases h
          exact ⟨s.curFragmentId, rfl⟩
        · cases h
  · cases hmsg : msg.message with
    | transport packet =>
        rw [hmsg] at h
        dsimp only at h
        split at h
        · cases h
        · cases h
    | arpPacket =>
        rw [hmsg] at h
        cases h
        exact ⟨s.curFragmentId, rfl⟩
    | datagram datagram =>
        rw [hmsg] at h
        dsimp only at h ⊢
        split at h
        · rename_i hgate
          rw [if_pos hgate]
          exact ⟨_, handlePacketFromNetwork_module h⟩
        · cases h

section Counting

variable {p : Protocol}

theorem count_trace (htracing : s.tracingOn = true) (c : Series) : c.trace (s.count p) =
    if c.counts p then int32 (c.trace s + 1) else c.trace s := by
  unfold count
  rw [if_pos htracing]
  cases p <;> cases c <;> rfl

theorem count_packets (htracing : s.tracingOn = true) (c : Series) : c.packets (s.count p) =
    if c.counts p then int32 (c.packets s + 1) else c.packets s := by
  unfold count
  rw [if_pos htracing]
  cases p <;> cases c <;> rfl

theorem count_vector (c : Series) : c.vector (s.count p) = c.vector s := by
  unfold count
  split
  · cases p <;> cases c <;> rfl
  · rfl

/-- The trace goes on as before. -/
structure SameTrace (s s' : IP_hack) : Prop where
  tracingOn : s'.tracingOn = s.tracingOn
  startTrace : s'.startTrace = s.startTrace
  traceInterval : s'.traceInterval = s.traceInterval
  traceMsg : s'.traceMsg = s.traceMsg

theorem count_sameTrace : SameTrace s (s.count p) := by
  unfold count
  split
  · cases p <;> exact ⟨rfl, rfl, rfl, rfl⟩
  · exact ⟨rfl, rfl, rfl, rfl⟩

end Counting

/-- What a trace message does. -/
structure Ticked (s : IP_hack) (t : Rat) (s' : IP_hack) : Prop where
  tracingOn : s'.tracingOn = s.tracingOn
  startTrace : s'.startTrace = true
  traceInterval : s'.traceInterval = s.traceInterval
  traceMsg : s'.traceMsg = some (t + s.traceInterval)
  trace : ∀ c : Series, c.trace s' = 0
  packets : ∀ c : Series, c.packets s' = c.packets s
  vector : ∀ c : Series, c.vector s' =
    (if s.startTrace then [(t, c.trace s)] else []) ++ c.vector s

theorem scheduled_ok {t delay : Rat} {timer : Timer}
    (h : scheduled (scheduleAt none t delay) = .ok timer) : timer = some (t + delay) := by
  rcases scheduleAt_none_cases t delay with hpast | hset
  · rw [hpast] at h
    cases h
  · rw [hset] at h
    cases h
    rfl

theorem handleTraceMsg_ticked {t : Rat} {s' : IP_hack} (htracing : s.tracingOn = true)
    (h : s.handleTraceMsg t = .ok s') : Ticked s t s' := by
  unfold handleTraceMsg at h
  dsimp only at h
  cases hstart : s.startTrace with
  | false =>
      rw [hstart, if_pos Bool.false_ne_true] at h
      cases htimer : scheduled (scheduleAt none t s.traceInterval) with
      | error e =>
          rw [htimer] at h
          cases h
      | ok timer =>
          rw [htimer] at h
          cases h
          exact ⟨rfl, rfl, rfl, scheduled_ok htimer, fun c => by cases c <;> rfl,
            fun c => by cases c <;> rfl, fun c => by rw [hstart]; cases c <;> rfl⟩
  | true =>
      rw [hstart, if_neg (not_not_intro rfl), if_pos htracing] at h
      dsimp only at h
      cases htimer : scheduled (scheduleAt none t s.traceInterval) with
      | error e =>
          rw [htimer] at h
          cases h
      | ok timer =>
          rw [htimer] at h
          cases h
          exact ⟨rfl, rfl, rfl, scheduled_ok htimer, fun c => by cases c <;> rfl,
            fun c => by cases c <;> rfl, fun c => by rw [hstart]; cases c <;> rfl⟩

end IP_hack

theorem Series.value_nil (c : Series) : c.value [] = 0 := int32_zero

theorem Series.value_cons (c : Series) (d : Rat × Datagram) (traffic : List (Rat × Datagram)) :
    c.value (d :: traffic) =
      if c.counts d.2.transportProtocol then int32 (c.value traffic + 1) else c.value traffic := by
  unfold value
  rw [List.countP_cons]
  split
  · rw [int32_succ]
  · rfl

/-- A message adds to the series what it brings from the network. -/
structure Series.Counted (c : Series) (s s' : IP_hack) (new : List (Rat × Datagram)) : Prop where
  trace : ∀ l, c.trace s = c.value l → c.trace s' = c.value (new ++ l)
  packets : ∀ l, c.packets s = c.value l → c.packets s' = c.value (new ++ l)
  vector : c.vector s' = c.vector s

theorem endService_series {node : Node} {s : IP_hack} {r : IP_hack × Action} {msg : Arrived}
    {draw : Rat} (htracing : s.tracingOn = true) (h : s.endService node msg draw = .ok r)
    (t : Rat) : IP_hack.SameTrace s r.1 ∧ ∀ c : Series, c.Counted s r.1 (heard t msg) := by
  obtain ⟨id, hmodule⟩ := IP_hack.endService_module h
  unfold IP_hack.counted at hmodule
  unfold heard
  cases hmsg : msg.fromNetwork with
  | none =>
      rw [hmodule, hmsg]
      refine ⟨⟨rfl, rfl, rfl, rfl⟩, fun c => ?_⟩
      cases c <;> exact ⟨fun _ h => h, fun _ h => h, rfl⟩
  | some datagram =>
      have hid : ∀ c : Series,
          c.trace r.1 = c.trace (s.count datagram.transportProtocol) ∧
          c.packets r.1 = c.packets (s.count datagram.transportProtocol) ∧
          c.vector r.1 = c.vector (s.count datagram.transportProtocol) := by
        intro c
        rw [hmodule, hmsg]
        cases c <;> exact ⟨rfl, rfl, rfl⟩
      have hsame : IP_hack.SameTrace s (s.count datagram.transportProtocol) :=
        IP_hack.count_sameTrace
      refine ⟨?_, fun c => ⟨fun l hl => ?_, fun l hl => ?_, ?_⟩⟩
      · rw [hmodule, hmsg]
        exact ⟨hsame.tracingOn, hsame.startTrace, hsame.traceInterval, hsame.traceMsg⟩
      · show c.trace r.1 = c.value ((t, datagram) :: l)
        rw [(hid c).1, IP_hack.count_trace htracing, c.value_cons, hl]
      · show c.packets r.1 = c.value ((t, datagram) :: l)
        rw [(hid c).2.1, IP_hack.count_packets htracing, c.value_cons, hl]
      · rw [(hid c).2.2, IP_hack.count_vector]

/-! ## The invariant -/

/-- What holds in every state: with the histogram, the interval that goes on. -/
structure Kept (par : Parameters) (start : Rat) (w : World) : Prop where
  histogram : Histogram par start w
  tracingOn : w.module.tracingOn = true
  traceInterval : w.module.traceInterval = par.tracingInterval
  startTrace : w.module.startTrace = true ↔ intervals w.history ≠ []
  trace : ∀ c : Series, c.trace w.module = c.value (since w.history)
  recent : ∀ d ∈ since w.history, d.1 ≤ w.now
  current : ∀ i ∈ (intervals w.history).head?, i.endsAt ≤ w.now ∧
    i.endsAt + par.tracingInterval = tick par start (intervals w.history).length ∧
    ∀ d ∈ since w.history, i.endsAt ≤ d.1

variable {node : Node} {par : Parameters} {start : Rat} {w w' : World} {e : Event}

theorem tick_succ (par : Parameters) (start : Rat) (k : Nat) :
    tick par start k + par.tracingInterval = tick par start (k + 1) := by
  unfold tick
  rw [Nat.cast_succ]
  ring

/-- What `initialize` leaves where it turns tracing on. -/
structure Opened (par : Parameters) (start : Rat) (s : IP_hack) : Prop where
  tracingOn : s.tracingOn = true
  startTrace : s.startTrace = false
  traceInterval : s.traceInterval = par.tracingInterval
  traceMsg : s.traceMsg = some (firstAt par start)
  series : ∀ c : Series, c.trace s = 0 ∧ c.packets s = 0 ∧ c.vector s = []

theorem initializeModule_opened {curFragmentId : Int} {s : IP_hack}
    (htracing : par.tracingOn = true)
    (h : IP_hack.initializeModule par start curFragmentId = .ok s) : Opened par start s := by
  unfold IP_hack.initializeModule at h
  dsimp only at h
  rw [if_pos htracing] at h
  have hset : ∀ timer, IP_hack.scheduled (if par.traceStartTime ≤ 0 then
      scheduleAt none start par.tracingInterval
      else scheduleAt none start par.traceStartTime) = .ok timer →
      timer = some (firstAt par start) := by
    intro timer htimer
    unfold firstAt
    split at htimer
    · rename_i hearly
      rw [if_pos hearly]
      exact IP_hack.scheduled_ok htimer
    · rename_i hlate
      rw [if_neg hlate]
      exact IP_hack.scheduled_ok htimer
  cases htimer : IP_hack.scheduled (if par.traceStartTime ≤ 0 then
      scheduleAt none start par.tracingInterval
      else scheduleAt none start par.traceStartTime) with
  | error e =>
      rw [htimer] at h
      cases h
  | ok timer =>
      rw [htimer] at h
      cases h
      refine ⟨htracing, rfl, rfl, hset timer htimer, fun c => ?_⟩
      cases c <;> exact ⟨rfl, rfl, rfl⟩

theorem Kept.init (hinit : (system node par).init w) (htracing : par.tracingOn = true) :
    Kept par w.now w := by
  obtain ⟨curFragmentId, s, hs, hw⟩ := hinit
  have hopened : Opened par w.now s := initializeModule_opened htracing hs
  have hfirst : tick par w.now 0 = firstAt par w.now := by
    unfold tick
    rw [Nat.cast_zero, zero_mul, add_zero]
  have hmodule : w.module = s := by rw [hw]
  have hhistory : w.history = [] := by rw [hw]
  have hintervals : intervals w.history = [] := by rw [hhistory]; rfl
  have hsince : since w.history = [] := by rw [hhistory]; rfl
  have hreceived : received w.history = [] := by rw [hhistory]; rfl
  exact
    { histogram :=
        { times := by rw [hintervals]; rfl
          vectors := fun c => by
            rw [hmodule, (hopened.series c).2.2, traced, hintervals]
            rfl
          within := fun i hi => by
            rw [traced, hintervals] at hi
            cases hi
          scalars := fun c => by
            rw [hmodule, (hopened.series c).2.1, hreceived, c.value_nil]
          scheduled := by
            rw [hmodule, hopened.traceMsg, hintervals]
            exact congrArg some hfirst.symm }
      tracingOn := hmodule ▸ hopened.tracingOn
      traceInterval := hmodule ▸ hopened.traceInterval
      startTrace := by
        rw [hmodule, hopened.startTrace, hintervals]
        exact iff_of_false Bool.false_ne_true fun h => h rfl
      trace := fun c => by
        rw [hmodule, (hopened.series c).1, hsince, c.value_nil]
      recent := fun d hd => by
        rw [hsince] at hd
        cases hd
      current := fun i hi => by
        rw [hintervals] at hi
        cases hi }

theorem traced_traceMsg (t : Rat) (past : List Observed) : traced (.traceMsg t :: past) =
    if intervals past = [] then [] else ⟨t, since past⟩ :: traced past := by
  show (⟨t, since past⟩ :: intervals past : List Interval).dropLast = _
  split
  · rename_i hnone
    rw [hnone]
    rfl
  · rename_i hsome
    exact List.dropLast_cons_of_ne_nil hsome

theorem Kept.ticked (h : Kept par start w) {t : Rat} {s : IP_hack}
    (htimer : w.module.traceMsg = some t) (hnow : w.now ≤ t)
    (hs : IP_hack.Ticked w.module t s) : Kept par start
      { w with now := t, module := s, history := .traceMsg t :: w.history } := by
  have htick : t = tick par start (intervals w.history).length := by
    rw [h.histogram.scheduled] at htimer
    exact (Option.some.inj htimer).symm
  have hlast : t + par.tracingInterval = tick par start ((intervals w.history).length + 1) := by
    rw [htick, tick_succ]
  exact
    { histogram :=
        { times := by
            show t :: (intervals w.history).map Interval.endsAt =
              (List.range ((intervals w.history).length + 1)).reverse.map (tick par start)
            rw [List.range_succ, List.reverse_append, List.reverse_singleton,
              List.singleton_append, List.map_cons, ← h.histogram.times, ← htick]
          vectors := by
            intro c
            dsimp only
            rw [hs.vector, traced_traceMsg, h.histogram.vectors, h.trace]
            by_cases hstart : w.module.startTrace = true
            · rw [if_pos hstart, if_neg (h.startTrace.mp hstart)]
              rfl
            · have hnone : intervals w.history = [] :=
                not_not.mp fun hsome => hstart (h.startTrace.mpr hsome)
              rw [if_neg hstart, if_pos hnone, traced, hnone]
              rfl
          within := by
            intro i hi d hd
            dsimp only at hi
            rw [traced_traceMsg] at hi
            split at hi
            · cases hi
            · rename_i hsome
              rcases List.mem_cons.mp hi with rfl | hold
              · obtain ⟨last, before, hhead⟩ := List.exists_cons_of_ne_nil hsome
                obtain ⟨-, hend, hfrom⟩ := h.current last (by rw [hhead]; rfl)
                rw [← htick] at hend
                dsimp only at hd ⊢
                refine ⟨?_, (h.recent d hd).trans hnow⟩
                have hlater := hfrom d hd
                rw [← hend, add_sub_cancel_right]
                exact hlater
              · exact h.histogram.within i hold d hd
          scalars := fun c => (hs.packets c).trans (h.histogram.scalars c)
          scheduled := by
            show s.traceMsg = some (tick par start ((intervals w.history).length + 1))
            rw [hs.traceMsg, h.traceInterval, hlast] }
      tracingOn := hs.tracingOn.trans h.tracingOn
      traceInterval := hs.traceInterval.trans h.traceInterval
      startTrace := iff_of_true hs.startTrace (List.cons_ne_nil _ _)
      trace := fun c => (hs.trace c).trans c.value_nil.symm
      recent := fun d hd => by cases hd
      current := by
        intro i hi
        obtain rfl := Option.some.inj hi
        exact ⟨le_rfl, hlast, fun d hd => by cases hd⟩ }

theorem Kept.served (h : Kept par start w) {t : Rat} {msg : Arrived} {draw : Rat}
    {r : IP_hack × Action} (hnow : w.now ≤ t)
    (hr : w.module.endService node msg draw = .ok r) : Kept par start
      { w with now := t, module := r.1, history := .served t msg r.2 :: w.history } := by
  obtain ⟨hsame, hseries⟩ := endService_series h.tracingOn hr t
  have hheard : ∀ d ∈ heard t msg, d.1 = t := by
    intro d hd
    unfold heard at hd
    obtain ⟨datagram, -, rfl⟩ := Option.map_eq_some_iff.mp (Option.mem_toList.mp hd)
    rfl
  exact
    { histogram :=
        { times := h.histogram.times
          vectors := fun c => (hseries c).vector.trans (h.histogram.vectors c)
          within := h.histogram.within
          scalars := fun c => (hseries c).packets _ (h.histogram.scalars c)
          scheduled := hsame.traceMsg.trans h.histogram.scheduled }
      tracingOn := hsame.tracingOn.trans h.tracingOn
      traceInterval := hsame.traceInterval.trans h.traceInterval
      startTrace := by
        show r.1.startTrace = true ↔ intervals w.history ≠ []
        rw [hsame.startTrace]
        exact h.startTrace
      trace := fun c => (hseries c).trace _ (h.trace c)
      recent := fun d hd => by
        rcases List.mem_append.mp hd with hnew | hold
        · exact (hheard d hnew).le
        · exact (h.recent d hold).trans hnow
      current := fun i hi => by
        obtain ⟨hended, hnext, hfrom⟩ := h.current i hi
        refine ⟨hended.trans hnow, hnext, fun d hd => ?_⟩
        rcases List.mem_append.mp hd with hnew | hold
        · rw [hheard d hnew]
          exact hended.trans hnow
        · exact hfrom d hold }

theorem Kept.step (h : Kept par start w) (hstep : (system node par).step w e w') :
    Kept par start w' := by
  rcases step_cases hstep with ⟨e, rfl⟩ | ⟨t, s, htimer, hnow, hs, rfl⟩ |
    ⟨t, msg, draw, r, hnow, hr, rfl⟩
  · have hhistogram : Histogram par start { w with fault := some e } :=
      ⟨h.histogram.times, h.histogram.vectors, h.histogram.within, h.histogram.scalars,
        h.histogram.scheduled⟩
    exact ⟨hhistogram, h.tracingOn, h.traceInterval, h.startTrace, h.trace, h.recent, h.current⟩
  · exact h.ticked htimer hnow (IP_hack.handleTraceMsg_ticked h.tracingOn hs)
  · exact h.served hnow hr

/-- The trace router of a node without interfaces, with an interval of five seconds. -/
def traceRouter : Parameters where
  spoofingOn := false
  tracingOn := true
  tracingInterval := 5
  traceStartTime := 0

def bareNode : Node where
  numInterfaces := 0
  interfaceById _ := none
  interfaceByAddress _ := none
  defaultTimeToLive := 32
  defaultMCTimeToLive := 32

def traceRouterOpened : IP_hack where
  tracingOn := true
  traceInterval := 5
  traceMsg := some 5
  curFragmentId := 0

/-- An attack packet that passes. -/
def floodPacket : Arrived where
  arrivalGate := "queueIn"
  message := .datagram
    { byteLength := 528
      srcAddress := 0x0A000001
      destAddress := 0x0A010001
      transportProtocol := .udp
      timeToLive := 30
      diffServCodePoint := 0
      identification := 7
      dontFragment := false
      attackTag := 6 }

/-- The first trace message, two packets, and the second trace message. -/
def traceRouterEvents : List Event :=
  [.traceMsg, .endService 6 floodPacket 0, .endService 8 floodPacket 0, .traceMsg]

theorem traceRouter_init :
    (system bareNode traceRouter).init { now := 0, module := traceRouterOpened } :=
  ⟨0, traceRouterOpened, by decide +kernel, rfl⟩

/-- What it writes down: two packets, both of UDP. -/
example : (TSys.finish { now := 0, module := traceRouterOpened }
    (TSys.trace (World.next bareNode) { now := 0, module := traceRouterOpened }
      traceRouterEvents)).module.udpout = [(10, 2)] := by
  decide +kernel

end ScadaSim.Ip
