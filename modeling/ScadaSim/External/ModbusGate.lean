import ScadaSim.External.HandOver

/-!
# The accept loop of the Modbus gate

`ModbusGate::listen` is the gate thread: it accepts one client after the other and
passes what each of them sends to `processMessage`, with the address it finds in
`mb_param.remote_ip`. That buffer is written by the first accept, in
`modbus_init_listen_tcp`, and by no other: `addressed_iff_fromFirst`.
-/

namespace ScadaSim.External

open Lib

/-! ## Addresses as text -/

/-- An IPv4 address, in network byte order. -/
structure InAddr where
  b1 : UInt8
  b2 : UInt8
  b3 : UInt8
  b4 : UInt8
  deriving DecidableEq

/-- A byte in decimal. -/
def decimal (b : UInt8) : List Char := Nat.toDigits 10 b.toNat

def InAddr.dotted (a : InAddr) : List Char :=
  decimal a.b1 ++ '.' :: (decimal a.b2 ++ '.' :: (decimal a.b3 ++ '.' :: decimal a.b4))

def inet_ntoa (a : InAddr) : String := String.ofList a.dotted

/-- `strncpy(dest, src, n)`: `n` bytes, filled up with zeros. -/
def strncpy (src : String) (n : Nat) : List Char :=
  (src.toList ++ List.replicate n (Char.ofNat 0)).take n

/-- The string in a buffer, up to the first zero. -/
def cString (buffer : List Char) : String :=
  String.ofList (buffer.takeWhile fun c => c ≠ Char.ofNat 0)

theorem decimal_short (b : UInt8) : (decimal b).length ≤ 3 := by
  have hlt := b.toNat_lt
  exact (Nat.length_toDigits_le_iff (by decide) (by decide)).mpr (by omega)

theorem decimal_digits (b : UInt8) : ∀ c ∈ decimal b, c ≠ '.' ∧ c ≠ Char.ofNat 0 := by
  intro c hc
  have hdigit : c.isDigit = true := Nat.isDigit_of_mem_toDigits (by decide) (by decide) hc
  constructor
  · rintro rfl
    cases hdigit
  · rintro rfl
    cases hdigit

theorem decimal_injective {b c : UInt8} (h : decimal b = decimal c) : b = c := by
  apply UInt8.toNat_inj.mp
  have hvalue := congrArg (fun cs => Nat.ofDigitChars 10 cs 0) h
  simpa only [decimal, Nat.ofDigitChars_toDigits (b := 10) (by decide) (by decide)] using hvalue

/-- The first part of a text ends at its first dot. -/
theorem eq_of_append_dot {x y : List Char} (hx : '.' ∉ x) (hy : '.' ∉ y) {z w : List Char}
    (h : x ++ '.' :: z = y ++ '.' :: w) : x = y ∧ z = w := by
  induction x generalizing y with
  | nil =>
      cases y with
      | nil => exact ⟨rfl, (List.cons.inj h).2⟩
      | cons d y => exact absurd (List.mem_cons.mpr (.inl (List.cons.inj h).1)) hy
  | cons c x ih =>
      cases y with
      | nil => exact absurd (List.mem_cons.mpr (.inl (List.cons.inj h).1.symm)) hx
      | cons d y =>
          obtain ⟨rfl, htail⟩ := List.cons.inj h
          obtain ⟨rfl, rfl⟩ := ih (fun hmem => hx (List.mem_cons_of_mem _ hmem))
            (fun hmem => hy (List.mem_cons_of_mem _ hmem)) htail
          exact ⟨rfl, rfl⟩

theorem dot_notMem_decimal (b : UInt8) : '.' ∉ decimal b :=
  fun hmem => (decimal_digits b _ hmem).1 rfl

theorem inet_ntoa_injective {a b : InAddr} (h : inet_ntoa a = inet_ntoa b) : a = b := by
  have hdotted : a.dotted = b.dotted := String.ofList_injective h
  obtain ⟨h1, hrest⟩ := eq_of_append_dot (dot_notMem_decimal _) (dot_notMem_decimal _) hdotted
  obtain ⟨h2, hrest⟩ := eq_of_append_dot (dot_notMem_decimal _) (dot_notMem_decimal _) hrest
  obtain ⟨h3, h4⟩ := eq_of_append_dot (dot_notMem_decimal _) (dot_notMem_decimal _) hrest
  cases a
  cases b
  rw [InAddr.mk.injEq]
  exact ⟨decimal_injective h1, decimal_injective h2, decimal_injective h3, decimal_injective h4⟩

/-- The buffer of 16 bytes holds every address. -/
theorem cString_strncpy_inet_ntoa (a : InAddr) :
    cString (strncpy (inet_ntoa a) 16) = inet_ntoa a := by
  have hlength : a.dotted.length ≤ 15 := by
    have h1 := decimal_short a.b1
    have h2 := decimal_short a.b2
    have h3 := decimal_short a.b3
    have h4 := decimal_short a.b4
    unfold InAddr.dotted
    simp only [List.length_append, List.length_cons]
    omega
  have hchars : ∀ c ∈ a.dotted, c ≠ Char.ofNat 0 := by
    intro c hc
    have hdot : ('.' : Char) ≠ Char.ofNat 0 := by decide
    unfold InAddr.dotted at hc
    simp only [List.mem_append, List.mem_cons] at hc
    rcases hc with hc | rfl | hc | rfl | hc | rfl | hc
    · exact (decimal_digits _ c hc).2
    · exact hdot
    · exact (decimal_digits _ c hc).2
    · exact hdot
    · exact (decimal_digits _ c hc).2
    · exact hdot
    · exact (decimal_digits _ c hc).2
  unfold cString strncpy inet_ntoa
  rw [String.toList_ofList, List.take_append]
  rw [List.take_of_length_le (by omega), List.takeWhile_append_of_pos (by simpa using hchars)]
  obtain ⟨n, hn⟩ : ∃ n, 16 - a.dotted.length = n + 1 := ⟨15 - a.dotted.length, by omega⟩
  rw [hn]
  simp [List.replicate_succ, List.take_succ_cons]

/-! ## The gate thread -/

/-- A `processMessage` call, with the client it is made for. -/
structure GateCall where
  sender : InAddr
  extAddress : String

/-- A message that has been handed over, with the client it comes from, the proxies
bound at that moment and the one that was notified. -/
structure Notice where
  sender : InAddr
  proxies : List SSProxy
  dest : Option SSProxy

structure ModbusGate where
  world : World
  /-- `socket_conn` is open, and the gate is in its loop. -/
  listening : Bool
  /-- `mb_param.remote_ip` -/
  remote_ip : List Char
  /-- The client at the other end of `mb_param.fd`. -/
  client : InAddr
  /-- history: the client of the first accept -/
  firstClient : InAddr
  /-- history: the calls of `processMessage` -/
  calls : List GateCall
  /-- history: the messages handed over -/
  notices : List Notice

/-- What happens to the gate: `modbus_listen` returns 0, `CONNECTION_CLOSED` or
another code, and a `processMessage` call is resumed; and everything that is not of
the gate thread. -/
inductive GateEvent
  | query
  /-- The next client, if `accept` succeeds. -/
  | closed (next : Option InAddr)
  | error
  | other (a : Action)

/-- Only the loop of the gate calls `processMessage`. -/
def Action.isProcessMessage : Action → Bool
  | .processMessage _ => true
  | _ => false

namespace ModbusGate

/-- A step of the world; a message that it hands over is noted. -/
def observe (g : ModbusGate) (a : Action) (world : World) : ModbusGate :=
  { g with
    world := world
    notices := g.notices ++
      match handsOver g.world a with
      | none => []
      | some extAddress =>
          [⟨g.client, g.world.proxies, getProxyDestination g.world.proxies extAddress⟩] }

/-- `modbus_init_listen_tcp`: the first accept. -/
def listen (world : World) (client : InAddr) : ModbusGate where
  world := world
  listening := true
  remote_ip := strncpy (inet_ntoa client) 16
  client := client
  firstClient := client
  calls := []
  notices := []

/-- A query has been read: the loop calls `processMessage` for it. -/
def query (g : ModbusGate) : Option ModbusGate :=
  if g.listening then
    let extAddress := cString g.remote_ip
    match g.world.processMessage extAddress with
    | none => none
    | some world =>
        let g' := g.observe (.processMessage extAddress) world
        some { g' with calls := g'.calls ++ [⟨g.client, extAddress⟩] }
  else none

/-- The connection is closed by the client: the loop accepts the next one, or ends. -/
def closed (g : ModbusGate) (next : Option InAddr) : Option ModbusGate :=
  if g.listening ∧ g.world.gate = .idle then
    match next with
    | none => some { g with listening := false }
    | some client => some { g with client := client }
  else none

def other (g : ModbusGate) (a : Action) : Option ModbusGate :=
  if a.isProcessMessage then none
  else
    match g.world.step a with
    | none => none
    | some world => some (g.observe a world)

def step (g : ModbusGate) : GateEvent → Option ModbusGate
  | .query => g.query
  | .closed next => g.closed next
  | .error => if g.listening ∧ g.world.gate = .idle then some g else none
  | .other a => g.other a

end ModbusGate

/-- The gate in a simulation, from the accept of its first client. -/
def modbusGate : TSys ModbusGate GateEvent where
  init := fun g => ∃ world client, world.Started ∧ g = .listen world client
  step := fun g a g' => g.step a = some g'

/-- Every request goes out under the address of its client, and what it notifies is
the proxy bound to that address, and none bound to another one. -/
structure Addressed (g : ModbusGate) : Prop where
  calls : ∀ c ∈ g.calls, c.extAddress = inet_ntoa c.sender
  notices : ∀ n ∈ g.notices, n.dest = getProxyDestination n.proxies (inet_ntoa n.sender)
  apart : ∀ n ∈ g.notices, ∀ p a, n.dest = some p → a ≠ n.sender → p.extAddress ≠ inet_ntoa a

/-- A request that is read comes from a host with the address of the first client. -/
def FromFirst (g : ModbusGate) : GateEvent → Prop
  | .query => g.client = g.firstClient
  | _ => True

instance (g : ModbusGate) (e : GateEvent) : Decidable (FromFirst g e) :=
  match e with
  | .query => inferInstanceAs (Decidable (g.client = g.firstClient))
  | .closed _ | .error | .other _ => .isTrue trivial

/-! ## One step -/

theorem notify_waiting {g : GateThread} {extAddress : String} {signalled : Bool}
    (h : g.notify = .waiting extAddress signalled) :
    ∃ signalled', g = .waiting extAddress signalled' := by
  cases g with
  | idle => cases h
  | waiting extAddress' signalled' =>
      cases h
      exact ⟨_, rfl⟩

/-- The gate thread waits only for the message it has called `processMessage` with. -/
theorem step_waiting {w w' : World} {a : Action} (h : w.step a = some w')
    (ha : a.isProcessMessage = false) {extAddress : String} {signalled : Bool}
    (hgate : w'.gate = .waiting extAddress signalled) :
    ∃ signalled', w.gate = .waiting extAddress signalled' := by
  cases World.step_cases h with
  | blocked | handedOver => cases ha
  | woken _ =>
      rw [World.handOver_gate] at hgate
      cases hgate
  | @delivered e m q _ _ => cases m <;> exact ⟨_, hgate⟩
  | notWaited | signalled | spurious | timedOut => exact notify_waiting hgate
  | tick | proxyBinding | scheduleAt | executionResumed | peeked | entered | reached | polled
  | chunk | last | passed | waited | received | interrupted | again | wentRound =>
      exact ⟨_, hgate⟩

theorem processMessage_waiting {w w' : World} {extAddress extAddress' : String} {signalled : Bool}
    (h : w.processMessage extAddress = some w')
    (hgate : w'.gate = .waiting extAddress' signalled) : extAddress' = extAddress := by
  unfold World.processMessage at h
  split at h
  · split at h
    · cases h
      cases hgate
      rfl
    · cases h
      rw [World.handOver_gate] at hgate
      cases hgate
  · cases h

theorem handsOver_processMessage {w : World} {extAddress extAddress' : String}
    (h : handsOver w (.processMessage extAddress) = some extAddress') :
    extAddress' = extAddress := by
  simp only [handsOver] at h
  split at h
  · split at h
    · cases h
    · exact (Option.some.inj h).symm
  · cases h

theorem handsOver_waiting {w : World} {a : Action} {extAddress : String}
    (ha : a.isProcessMessage = false) (h : handsOver w a = some extAddress) :
    ∃ signalled, w.gate = .waiting extAddress signalled := by
  unfold handsOver at h
  split at h
  · cases ha
  · split at h
    · cases h
    · rename_i hgate
      cases h
      exact ⟨_, hgate⟩
  · cases h

theorem query_cases {g g' : ModbusGate} (h : g.step .query = some g') :
    ∃ world, g.world.processMessage (cString g.remote_ip) = some world ∧
      g' = { g.observe (.processMessage (cString g.remote_ip)) world with
        calls := g.calls ++ [⟨g.client, cString g.remote_ip⟩] } := by
  simp only [ModbusGate.step, ModbusGate.query] at h
  split at h
  · split at h
    · cases h
    · rename_i world hworld
      exact ⟨world, hworld, (Option.some.inj h).symm⟩
  · cases h

/-- The connection is closed between two messages. -/
theorem closed_cases {g g' : ModbusGate} {next : Option InAddr}
    (h : g.step (.closed next) = some g') : g.world.gate = .idle ∧
      ∃ listening client, g' = { g with listening := listening, client := client } := by
  simp only [ModbusGate.step, ModbusGate.closed] at h
  split at h
  · rename_i hidle
    refine ⟨hidle.2, ?_⟩
    cases next with
    | none => exact ⟨_, _, (Option.some.inj h).symm⟩
    | some client => exact ⟨_, _, (Option.some.inj h).symm⟩
  · cases h

theorem error_eq {g g' : ModbusGate} (h : g.step .error = some g') : g' = g := by
  simp only [ModbusGate.step] at h
  split at h
  · exact (Option.some.inj h).symm
  · cases h

theorem other_cases {g g' : ModbusGate} {a : Action} (h : g.step (.other a) = some g') :
    a.isProcessMessage = false ∧
      ∃ world, g.world.step a = some world ∧ g' = g.observe a world := by
  simp only [ModbusGate.step, ModbusGate.other] at h
  split at h
  · cases h
  · rename_i ha
    split at h
    · cases h
    · rename_i world hworld
      exact ⟨by simpa using ha, world, hworld, (Option.some.inj h).symm⟩

/-- What the buffer and the gate thread hold. -/
structure Buffered (g : ModbusGate) : Prop where
  remote_ip : cString g.remote_ip = inet_ntoa g.firstClient
  waiting : ∀ extAddress signalled, g.world.gate = .waiting extAddress signalled →
    ∃ c ∈ g.calls, c.sender = g.client ∧ c.extAddress = extAddress

theorem buffered_listen {world : World} (h : world.Started) (client : InAddr) :
    Buffered (.listen world client) where
  remote_ip := cString_strncpy_inet_ntoa client
  waiting := by
    intro extAddress signalled hgate
    rw [show (ModbusGate.listen world client).world.gate = .idle from h.gate] at hgate
    cases hgate

theorem buffered_step {g g' : ModbusGate} {e : GateEvent} (h : Buffered g)
    (hstep : g.step e = some g') : Buffered g' := by
  cases e with
  | query =>
      obtain ⟨world, hworld, rfl⟩ := query_cases hstep
      -- the message waited for is the one just passed on
      refine ⟨h.remote_ip, ?_⟩
      intro extAddress signalled hgate
      refine ⟨_, List.mem_append_right _ (List.mem_singleton_self _), rfl, ?_⟩
      exact (processMessage_waiting hworld hgate).symm
  | closed next =>
      obtain ⟨hidle, listening, client, rfl⟩ := closed_cases hstep
      -- none is waited for
      refine ⟨h.remote_ip, ?_⟩
      intro extAddress signalled hgate
      rw [show g.world.gate = .waiting extAddress signalled from hgate] at hidle
      cases hidle
  | error =>
      obtain rfl := error_eq hstep
      exact h
  | other a =>
      obtain ⟨ha, world, hworld, rfl⟩ := other_cases hstep
      refine ⟨h.remote_ip, ?_⟩
      intro extAddress signalled hgate
      obtain ⟨_, hold⟩ := step_waiting hworld ha hgate
      exact h.waiting _ _ hold

/-- A message handed over under the address of its client is as it should be. -/
theorem Addressed.observe {g : ModbusGate} (h : Addressed g) {a : Action} {world : World}
    (hsender : ∀ extAddress, handsOver g.world a = some extAddress →
      extAddress = inet_ntoa g.client) : Addressed (g.observe a world) := by
  refine ⟨h.calls, ?_, ?_⟩
  · intro n hn
    rcases List.mem_append.mp hn with hn | hn
    · exact h.notices n hn
    · cases hover : handsOver g.world a with
      | none => simp [hover] at hn
      | some extAddress =>
          simp only [hover, List.mem_singleton] at hn
          rw [hn, hsender _ hover]
  · intro n hn p b hdest hb
    rcases List.mem_append.mp hn with hn | hn
    · exact h.apart n hn p b hdest hb
    · cases hover : handsOver g.world a with
      | none => simp [hover] at hn
      | some extAddress =>
          simp only [hover, List.mem_singleton] at hn
          rw [hn] at hdest hb
          have hfound : p.extAddress = extAddress := by
            simpa using List.find?_some hdest
          rw [hfound, hsender _ hover]
          exact fun heq => hb (inet_ntoa_injective heq).symm

theorem addressed_step {g g' : ModbusGate} {e : GateEvent} (hbuffer : Buffered g)
    (h : Addressed g) (hstep : g.step e = some g') : Addressed g' ↔ FromFirst g e := by
  cases e with
  | query =>
      obtain ⟨world, hworld, rfl⟩ := query_cases hstep
      -- `remote_ip` still names the first client, whoever sends
      constructor
      · intro h'
        have hlast := h'.calls _ (List.mem_append_right _ (List.mem_singleton_self _))
        rw [hbuffer.remote_ip] at hlast
        exact (inet_ntoa_injective hlast).symm
      · intro hfirst
        have hext : cString g.remote_ip = inet_ntoa g.client := by
          rw [hbuffer.remote_ip, show g.client = g.firstClient from hfirst]
        have hseen : Addressed (g.observe (.processMessage (cString g.remote_ip)) world) :=
          h.observe fun extAddress hover => (handsOver_processMessage hover).trans hext
        refine ⟨?_, hseen.notices, hseen.apart⟩
        intro c hc
        rcases List.mem_append.mp hc with hc | hc
        · exact h.calls c hc
        · rw [List.mem_singleton.mp hc]
          exact hext
  | closed next =>
      obtain ⟨-, listening, client, rfl⟩ := closed_cases hstep
      exact iff_of_true ⟨h.calls, h.notices, h.apart⟩ trivial
  | error =>
      obtain rfl := error_eq hstep
      exact iff_of_true h trivial
  | other a =>
      obtain ⟨ha, world, -, rfl⟩ := other_cases hstep
      refine iff_of_true (h.observe fun extAddress hover => ?_) trivial
      -- a message handed over later was passed on by a call made before
      obtain ⟨signalled, hgate⟩ := handsOver_waiting ha hover
      obtain ⟨c, hc, hsender, hext⟩ := hbuffer.waiting _ _ hgate
      rw [← hext, ← hsender]
      exact h.calls c hc

/-! ## Runs -/

/-- Along a run all requests are addressed as they should be just when all come from
the host of the first client. -/
theorem addressed_iff_fromFirst {g : ModbusGate} (hinit : modbusGate.init g)
    {tr : List (GateEvent × ModbusGate)} (hrun : modbusGate.Run g tr) :
    TSys.Always Addressed g tr ↔ TSys.Guarded FromFirst g tr := by
  obtain ⟨world, client, hstarted, rfl⟩ := hinit
  refine hrun.always_iff_guarded (fun _ _ _ h hstep => buffered_step h hstep)
    (fun _ _ _ hbuffer h hstep => addressed_step hbuffer h hstep)
    (buffered_listen hstarted client) ?_
  exact ⟨fun _ hc => absurd hc List.not_mem_nil, fun _ hn => absurd hn List.not_mem_nil,
    fun _ hn => absurd hn List.not_mem_nil⟩

/-! ### Two hosts -/

def hostOne : InAddr := ⟨10, 0, 0, 1⟩

def hostTwo : InAddr := ⟨10, 0, 0, 2⟩

/-- One proxy for each host, and nothing has happened. -/
def twoHostsWorld : World :=
  { oneProxy with proxies := [⟨1, "10.0.0.1"⟩, ⟨2, "10.0.0.2"⟩] }

theorem twoHosts_init : modbusGate.init (.listen twoHostsWorld hostOne) :=
  ⟨twoHostsWorld, hostOne, ⟨rfl, rfl, rfl, fun _ => List.not_mem_nil, fun _ => rfl, fun _ => rfl⟩,
    rfl⟩

/-- The second host connects after the first one, and sends a request. -/
def secondHostAsks : List (GateEvent × ModbusGate) :=
  TSys.trace ModbusGate.step (.listen twoHostsWorld hostOne) [.closed (some hostTwo), .query]

theorem secondHostAsks_run : modbusGate.Run (.listen twoHostsWorld hostOne) secondHostAsks :=
  TSys.run_trace (fun _ _ _ h => h) _ _

/-- The request of the second host goes out under the address of the first one. -/
theorem second_host_taken_for_first :
    modbusGate.init (.listen twoHostsWorld hostOne) ∧
      modbusGate.Run (.listen twoHostsWorld hostOne) secondHostAsks ∧
      ¬ TSys.Always Addressed (.listen twoHostsWorld hostOne) secondHostAsks := by
  refine ⟨twoHosts_init, secondHostAsks_run, ?_⟩
  intro h
  have hcall : (⟨hostTwo, cString (strncpy (inet_ntoa hostOne) 16)⟩ : GateCall) ∈
      (TSys.finish (.listen twoHostsWorld hostOne) secondHostAsks).calls :=
    List.mem_singleton_self _
  have haddress := h.last.calls _ hcall
  rw [cString_strncpy_inet_ntoa] at haddress
  exact absurd (inet_ntoa_injective haddress) (by decide)

/-- The first host asks, the second one connects and says nothing, and then the first one
connects again and asks; its request waits, for a wake-up that comes of itself. -/
def firstHostAsks : List (GateEvent × ModbusGate) :=
  TSys.trace ModbusGate.step (.listen twoHostsWorld hostOne)
    [.query, .closed (some hostTwo), .error, .closed (some hostOne), .query,
      .other (.gateWake true), .closed none]

theorem addressed_firstHostAsks :
    TSys.Always Addressed (.listen twoHostsWorld hostOne) firstHostAsks :=
  (addressed_iff_fromFirst twoHosts_init (TSys.run_trace (fun _ _ _ h => h) _ _)).mpr
    (by decide +kernel)

/-- Both requests are handed over, for the first host. -/
example : (TSys.finish (.listen twoHostsWorld hostOne) firstHostAsks).calls.map
      GateCall.sender = [hostOne, hostOne] ∧
    (TSys.finish (.listen twoHostsWorld hostOne) firstHostAsks).notices.map Notice.dest =
      [some ⟨1, "10.0.0.1"⟩, some ⟨1, "10.0.0.1"⟩] := by
  decide +kernel

end ScadaSim.External
