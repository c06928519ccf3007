import ScadaSim.Attack.StartOrder
import ScadaSim.Lib.Cycle

/-!
# The ports of the attack packets

A port of -1 walks from packet to packet, any other is fixed. The test that lets a
walking destination port come round is made on the fixed ones too, and sends every
packet for a port above 9999 to port 1. Source ports come round at the other end, where
no fixed port is.

`configuredPorts_iff` says which waves of a run have the ports of their attack.
-/

namespace ScadaSim.Attack

open Lib Cycle

/-- The destination and the source port; a ping has none. -/
def AttackHeader.ports : AttackHeader → Option (Int × Int)
  | .tcp _ _ _ _ _ _ _ srcPort destPort _ => some (destPort, srcPort)
  | .udp sourcePort destinationPort _ => some (destinationPort, sourcePort)
  | .ping _ _ _ => none

namespace TribeFloodNetwork

/-! ## Two copies of one walk -/

/-- The ports of the packets a flooding function makes one after the other. -/
def handlerPorts (handle : TribeFloodNetwork → PacketDraw → TribeFloodNetwork × AttackPacket) :
    TribeFloodNetwork → List PacketDraw → List (Option (Int × Int))
  | _, [] => []
  | s, draw :: draws => (handle s draw).2.header.ports :: handlerPorts handle (handle s draw).1 draws

/-- Whatever is drawn for them, TCP and UDP packets have the same ports. -/
theorem handlerPorts_tcp_eq_udp (env : Environment) (s : TribeFloodNetwork)
    {draws draws' : List PacketDraw} (hlength : draws.length = draws'.length) :
    handlerPorts (handleTCPFlood env) s draws = handlerPorts (handleUDPFlood env) s draws' := by
  induction draws generalizing s draws' with
  | nil =>
      obtain rfl : draws' = [] := List.length_eq_zero_iff.mp hlength.symm
      rfl
  | cons draw draws ih =>
      obtain ⟨draw', rest', rfl⟩ := List.exists_cons_of_length_eq_add_one hlength.symm
      exact congrArg (_ :: ·) (ih s.walkPorts (Nat.succ.inj hlength))

/-! ## The ports of one packet -/

/-- The ports after `k` packets of a wave: (destination, source). -/
def StartedWave.portsAt (a : StartedWave) (k : Nat) : Int × Int :=
  (if a.dstPortWalkOn then up 9999 k
    else if k = 0 ∨ a.victimPort ≤ 9999 then a.victimPort else 1,
   if a.srcPortWalkOn then down 9999 k
    else if k = 0 ∨ 1 ≤ a.sourcePort then a.sourcePort else 9999)

/-- The parameters `v` after `n` packets of wave `a`. -/
structure AtPacket (a : StartedWave) (n : Nat) (v : StartedWave) : Prop where
  wave : v.toWave = a.toWave
  ports : a.floodFunc ≠ some .handlePingFlood → (v.victimPort, v.sourcePort) = a.portsAt n

theorem attack_eq_some {s : TribeFloodNetwork} {i : Nat} {a : StartedWave}
    (h : s.attack i = some a) : ∃ victimAddr d sp packetSize attackType maxPacket,
      s.victimPort[i]? = some d ∧ s.sourcePort[i]? = some sp ∧
        s.attackType[i]? = some attackType ∧
        a = .ofParameters victimAddr d sp packetSize attackType maxPacket := by
  unfold attack at h
  simp only [Option.bind_eq_bind, Option.bind_eq_some_iff, Option.pure_def,
    Option.some.injEq] at h
  obtain ⟨victimAddr, -, d, hd, sp, hsp, packetSize, -, attackType, htype, maxPacket, -, rfl⟩ := h
  exact ⟨victimAddr, d, sp, packetSize, attackType, maxPacket, hd, hsp, htype, rfl⟩

/-- A wave begins at the ports it is configured for. -/
theorem AtPacket.start {s : TribeFloodNetwork} {i : Nat} {a : StartedWave}
    (h : s.attack i = some a) : AtPacket a 0 a := by
  obtain ⟨victimAddr, d, sp, packetSize, attackType, maxPacket, -, -, -, rfl⟩ := attack_eq_some h
  refine ⟨rfl, fun _ => ?_⟩
  by_cases hd : d = -1 <;> by_cases hs : sp = -1 <;>
    simp [StartedWave.portsAt, StartedWave.ofParameters, hd, hs, up, down]

/-- The test for the last port is made on a fixed port, too. -/
theorem portsAt_succ_fst (a : StartedWave) (n : Nat) : (a.portsAt (n + 1)).1 =
    (let port := if a.dstPortWalkOn then (a.portsAt n).1 + 1 else (a.portsAt n).1
     if port > 9999 then 1 else port) := by
  have hup := mem_values.mp (up_mem (m := 9999) (by decide) n)
  unfold StartedWave.portsAt
  dsimp only
  rw [up_succ (by decide) n]
  unfold upward
  cases a.dstPortWalkOn with
  | true =>
      simp only [if_true]
      split <;> split <;> omega
  | false =>
      simp only [Bool.false_eq_true, if_false]
      split <;> split <;> split <;> omega

theorem portsAt_succ_snd (a : StartedWave) (n : Nat) : (a.portsAt (n + 1)).2 =
    (let port := if a.srcPortWalkOn then (a.portsAt n).2 - 1 else (a.portsAt n).2
     if port < 1 then 9999 else port) := by
  have hdown := mem_values.mp (down_mem (m := 9999) (by decide) n)
  unfold StartedWave.portsAt
  dsimp only
  rw [down_succ (by decide) n]
  unfold downward
  cases a.srcPortWalkOn with
  | true =>
      simp only [if_true]
      split <;> split <;> omega
  | false =>
      simp only [Bool.false_eq_true, if_false]
      split <;> split <;> split <;> omega

/-- One packet on. -/
theorem AtPacket.walkPorts {s : TribeFloodNetwork} {a : StartedWave} {n : Nat}
    (h : AtPacket a n s.wave) (hfunc : a.floodFunc ≠ some .handlePingFlood) :
    (s.walkPorts.c_victimPort, s.walkPorts.c_sourcePort) = a.portsAt (n + 1) := by
  have hdst : s.dstPortWalkOn = a.dstPortWalkOn := congrArg Wave.dstPortWalkOn h.wave
  have hsrc : s.srcPortWalkOn = a.srcPortWalkOn := congrArg Wave.srcPortWalkOn h.wave
  have hports : (s.c_victimPort, s.c_sourcePort) = a.portsAt n := h.ports hfunc
  refine Prod.ext ?_ ?_
  · rw [portsAt_succ_fst, ← hports, ← hdst]
    rfl
  · rw [portsAt_succ_snd, ← hports, ← hsrc]
    rfl

theorem AtPacket.flood {s : TribeFloodNetwork} {a : StartedWave} {n : Nat}
    (h : AtPacket a n s.wave) (env : Environment) (draw : PacketDraw) :
    AtPacket a (n + 1) (s.flood env draw).1.wave ∧
      (a.floodFunc ≠ some .handlePingFlood →
        (s.flood env draw).2.header.ports = some (a.portsAt (n + 1))) := by
  have hfunc : some s.floodFunc = a.floodFunc := congrArg Wave.floodFunc h.wave
  unfold TribeFloodNetwork.flood
  cases hs : s.floodFunc with
  | handlePingFlood =>
      have hping : a.floodFunc = some .handlePingFlood := by rw [← hfunc, hs]
      exact ⟨⟨h.wave, fun hne => absurd hping hne⟩, fun hne => absurd hping hne⟩
  | handleTCPFlood =>
      exact ⟨⟨h.wave, h.walkPorts⟩, fun hne => congrArg some (h.walkPorts hne)⟩
  | handleUDPFlood =>
      exact ⟨⟨h.wave, h.walkPorts⟩, fun hne => congrArg some (h.walkPorts hne)⟩

/-! ## The history -/

/-- Each wave has its attack, and each packet the ports of its place in the wave. -/
def Walked (attack : Nat → Option StartedWave) : List Observed → Prop
  | [] => True
  | .begins i :: past => Walked attack past ∧ (attack i).isSome
  | .sends packet :: past => Walked attack past ∧ ∀ i n a, openWave past = some (i, n) →
      attack i = some a → a.floodFunc ≠ some .handlePingFlood →
        packet.header.ports = some (a.portsAt (n + 1))
  | .records _ :: past => Walked attack past

/-- The parameters in use are those of the open wave. -/
structure PortLog (s : TribeFloodNetwork) (past : List Observed) : Prop where
  walked : Walked s.attack past
  current : ∀ i n, openWave past = some (i, n) →
    ∃ a, s.attack i = some a ∧ AtPacket a n s.wave

theorem SameLists.attack_eq {s s' : TribeFloodNetwork} (h : SameLists s s') :
    s'.attack = s.attack := funext h

section Steps

variable {env : Environment} {par : FloodParameters} {t prob prob' : Rat} {s s' : TribeFloodNetwork}
  {past : List Observed}

/-- With a record no wave is open. -/
theorem PortLog.record (h : PortLog s past) (hlists : SameLists s s') (scalars : AttackScalars) :
    PortLog s' (.records scalars :: past) :=
  ⟨hlists.attack_eq ▸ h.walked, nofun⟩

theorem PortLog.begins (h : PortLog s past) (hlists : SameLists s s') {i : Nat}
    (hwave : some s'.wave = s.attack i) : PortLog s' (.begins i :: past) := by
  have hattack : s'.attack i = some s'.wave := (hlists i).trans hwave.symm
  refine ⟨⟨hlists.attack_eq ▸ h.walked, by rw [hattack]; rfl⟩, ?_⟩
  rintro _ _ ⟨⟩
  exact ⟨s'.wave, hattack, AtPacket.start hattack⟩

/-- A start message for a zombie that stays as it is. -/
theorem PortLog.same (h : PortLog s past) (hlists : SameLists s s') (hwave : s'.wave = s.wave) :
    PortLog s' past := by
  refine ⟨hlists.attack_eq ▸ h.walked, fun i n hopen => ?_⟩
  obtain ⟨a, ha, hat⟩ := h.current i n hopen
  exact ⟨a, (hlists i).trans ha, hwave ▸ hat⟩

/-- A wave begins where one joins or switches; a wave that was open is recorded first. -/
theorem decideAttack_seen :
    Post (fun r => (s.joins prob = true ∧ (r.2 = [.begins s.index] ∨
        ∃ scalars, r.2 = [.begins s.index, .records scalars])) ∨
      (s.joins prob = false ∧ (r.2 = [] ∨ ∃ scalars, r.2 = [.records scalars])))
      (s.decideAttack env par t prob prob') := by
  unfold decideAttack joins
  by_cases hactive : s.isActive = true
  · rw [if_pos hactive, if_pos hactive]
    by_cases hswitch : prob ≤ s.probAttackSwitch
    · rw [if_pos hswitch, decide_eq_true hswitch]
      refine beginWave_wave.bind fun begun hbegun => .inl ⟨rfl, .inr ?_⟩
      exact ⟨_, congrArg (· ++ _) hbegun.2.2.2⟩
    · rw [if_neg hswitch, decide_eq_false hswitch]
      split
      · exact .inr ⟨rfl, .inr ⟨_, rfl⟩⟩
      · exact .inr ⟨rfl, .inl rfl⟩
  · rw [if_neg hactive, if_neg hactive]
    by_cases hon : prob ≤ s.probAttackOn
    · rw [if_pos hon, decide_eq_true hon]
      exact beginWave_wave.bind fun begun hbegun => .inl ⟨rfl, .inl hbegun.2.2.2⟩
    · rw [if_neg hon, decide_eq_false hon]
      exact .inr ⟨rfl, .inl rfl⟩

theorem PortLog.startFlooding (h : PortLog s past) :
    Post (fun r => PortLog r.1 (r.2 ++ past)) (s.startFlooding env par t prob prob') := by
  unfold TribeFloodNetwork.startFlooding
  refine Post.bind_ok fun decided hdecided => ?_
  obtain ⟨hjoin, hstay, hlists, hindex⟩ := decideAttack_wave.of_ok hdecided
  have hlists' : SameLists s { decided.1 with index := decided.1.index + 1 } := hlists
  show PortLog _ (decided.2 ++ past)
  rcases decideAttack_seen.of_ok hdecided with ⟨hjoins, hseen⟩ | ⟨hjoins, hseen⟩
  · have hwave := hjoin hjoins
    rcases hseen with hseen | ⟨scalars, hseen⟩
    · rw [hseen]
      exact h.begins hlists' hwave
    · rw [hseen]
      exact (h.record (fun _ => rfl) scalars).begins hlists' hwave
  · have hwave := (hstay hjoins).1
    rcases hseen with hseen | ⟨scalars, hseen⟩
    · rw [hseen]
      exact h.same hlists' hwave
    · rw [hseen]
      exact h.record hlists' scalars

theorem PortLog.sends (h : PortLog s past) (hlists : SameLists s s') {packet : AttackPacket}
    (hpacket : ∀ a n, AtPacket a n s.wave → AtPacket a (n + 1) s'.wave ∧
      (a.floodFunc ≠ some .handlePingFlood → packet.header.ports = some (a.portsAt (n + 1)))) :
    PortLog s' (.sends packet :: past) := by
  constructor
  · rw [hlists.attack_eq]
    refine ⟨h.walked, fun i n a hopen ha => ?_⟩
    obtain ⟨a', ha', hat⟩ := h.current i n hopen
    obtain rfl : a' = a := Option.some.inj (ha'.symm.trans ha)
    exact (hpacket a' n hat).2
  · intro i n hopen
    obtain ⟨⟨i', n'⟩, hopen', heq⟩ := Option.map_eq_some_iff.mp hopen
    cases heq
    obtain ⟨a, ha, hat⟩ := h.current i' n' hopen'
    exact ⟨a, (hlists i').trans ha, (hpacket a n' hat).1⟩

theorem PortLog.sendAttackPacket (h : PortLog s past) (draw : PacketDraw) :
    Post (fun r => PortLog r.1 (r.2 ++ past)) (s.sendAttackPacket env t draw) := by
  have hpacket := fun a n (hat : AtPacket a n s.wave) =>
    AtPacket.flood (s := { s with floodingTime := none }) hat env draw
  obtain ⟨c_sourcePort, c_victimPort, hflood⟩ :=
    flood_spec env { s with floodingTime := none } draw
  unfold TribeFloodNetwork.sendAttackPacket
  generalize { s with floodingTime := none }.flood env draw = sent at hflood hpacket ⊢
  obtain ⟨s', packet⟩ := sent
  have hlists : SameLists s s' := by
    obtain rfl : s' = _ := hflood
    exact fun _ => rfl
  have hlog : PortLog s' (.sends packet :: past) := h.sends hlists hpacket
  dsimp only
  split
  · exact Post.bind_any fun _ => hlog.same (fun _ => rfl) rfl
  · refine Ensures.ok_iff.mpr (hlog.record ?_ _)
    exact fun _ => rfl

end Steps

section Runs

variable {env : Environment} {par : FloodParameters} {w w' : World}

/-- What a handler leaves behind, the event leaves behind. -/
theorem PortLog.settle (h : PortLog w.tfn w.history) {x : Handled} {startMsg : List Rat}
    (hx : Post (fun r => PortLog r.1 (r.2 ++ w.history)) x) :
    let w' := w.settle (x.map fun r => { w with
      tfn := r.1, startMsg := startMsg, history := r.2 ++ w.history })
    PortLog w'.tfn w'.history := by
  cases x with
  | ok r => exact hx
  | error e => exact h

theorem PortLog.step {e : Event} (h : PortLog w.tfn w.history)
    (hstep : (system env par).step w e w') : PortLog w'.tfn w'.history := by
  obtain ⟨-, -, r, hr, rfl⟩ := hstep
  cases e with
  | startFlooding simTime prob prob' =>
      obtain ⟨-, rfl⟩ := handle_startFlooding hr
      exact h.settle h.startFlooding
  | floodingTime draw =>
      obtain ⟨simTime, -, rfl⟩ := handle_floodingTime hr
      exact h.settle (h.sendAttackPacket draw)
  | networkMessage =>
      cases hr
      exact h
  | finish simTime =>
      cases hr
      by_cases hactive : w.tfn.isActive = true
      · simp only [World.settle, finish, if_pos hactive]
        refine h.record ?_ _
        exact fun _ => rfl
      · simp only [World.settle, finish, if_neg hactive]
        exact h

theorem portLog_of_reachable (h : (system env par).Reachable w) : PortLog w.tfn w.history := by
  have hkept : (system env par).Inductive fun w => PortLog w.tfn w.history := by
    refine ⟨?_, fun _ _ _ hlog hstep => hlog.step hstep⟩
    rintro w ⟨simTime, raw, r, -, rfl⟩
    exact ⟨trivial, nofun⟩
  exact hkept.invariant w h

end Runs

/-! ## The ports of a wave -/

/-- The ports of the packets of the open wave, in the order in which they were sent. -/
def wavePorts : List Observed → List (Int × Int)
  | .sends packet :: past => wavePorts past ++ packet.header.ports.toList
  | _ => []

/-- A port number, or -1. -/
def ValidPort (p : Int) : Prop := p = -1 ∨ (1 ≤ p ∧ p ≤ 65535)

/-- The ports that are configured for `n` packets: `d` and `sp` where they are fixed. -/
structure AsConfigured (d sp : Int) (n : Nat) (ports : List (Int × Int)) : Prop where
  count : ports.length = n
  destination : d ≠ -1 → ∀ p ∈ ports, p.1 = d
  destinationWalk : d = -1 → Cyclic 9999 (upward 9999) (ports.map Prod.fst)
  source : sp ≠ -1 → ∀ p ∈ ports, p.2 = sp
  sourceWalk : sp = -1 → Cyclic 9999 (downward 9999) (ports.map Prod.snd)

/-- TCP and UDP packets have the same ports, from any state on. -/
def SamePorts : Prop := ∀ env s (draws draws' : List PacketDraw), draws.length = draws'.length →
  handlerPorts (handleTCPFlood env) s draws = handlerPorts (handleUDPFlood env) s draws'

section Waves

variable {attack : Nat → Option StartedWave} {past : List Observed} {i n : Nat} {a : StartedWave}

theorem Walked.of_append {later : List Observed} (h : Walked attack (later ++ past)) :
    Walked attack past := by
  induction later with
  | nil => exact h
  | cons e later ih =>
      cases e with
      | begins i => exact ih h.1
      | sends packet => exact ih h.1
      | records scalars => exact ih h

/-- The open wave has an attack, and its packets the ports of their places. -/
theorem Walked.wavePorts_eq (h : Walked attack past) (hopen : openWave past = some (i, n)) :
    ∃ a, attack i = some a ∧ (a.floodFunc ≠ some .handlePingFlood →
      wavePorts past = (List.range n).map fun k => a.portsAt (k + 1)) := by
  induction past generalizing n with
  | nil => cases hopen
  | cons e past ih =>
      cases e with
      | begins j =>
          cases hopen
          obtain ⟨a, ha⟩ := Option.isSome_iff_exists.mp h.2
          exact ⟨a, ha, fun _ => rfl⟩
      | sends packet =>
          obtain ⟨⟨j, m⟩, hopen', heq⟩ := Option.map_eq_some_iff.mp hopen
          cases heq
          obtain ⟨a, ha, hports⟩ := ih h.1 hopen'
          refine ⟨a, ha, fun hfunc => ?_⟩
          have hpacket := h.2 j m a hopen' ha hfunc
          show wavePorts past ++ packet.header.ports.toList = _
          rw [hports hfunc, hpacket, List.range_succ, List.map_append]
          rfl
      | records scalars => cases hopen

/-- The ports a wave has are the configured ones where its first packet goes to the
configured destination. -/
theorem asConfigured_iff {d sp : Int} (hsp : ValidPort sp)
    (hdst : a.dstPortWalkOn = decide (d = -1)) (hport : d ≠ -1 → a.victimPort = d)
    (hsrc : a.srcPortWalkOn = decide (sp = -1)) (hsource : sp ≠ -1 → a.sourcePort = sp) :
    AsConfigured d sp n ((List.range n).map fun k => a.portsAt (k + 1)) ↔ n = 0 ∨ d ≤ 9999 := by
  constructor
  · intro h
    by_contra hbad
    obtain ⟨hn, hd⟩ := not_or.mp hbad
    have hne : d ≠ -1 := by omega
    have hfirst : a.portsAt 1 ∈ (List.range n).map fun k => a.portsAt (k + 1) :=
      List.mem_map.mpr ⟨0, List.mem_range.mpr (Nat.pos_of_ne_zero hn), rfl⟩
    have hone := h.destination hne _ hfirst
    simp [StartedWave.portsAt, hdst, hne, hport hne, hd] at hone
    omega
  · intro h
    refine ⟨by simp, ?_, ?_, ?_, ?_⟩
    · intro hne p hp
      obtain ⟨k, hk, rfl⟩ := List.mem_map.mp hp
      have hlt := List.mem_range.mp hk
      have hle : d ≤ 9999 := by omega
      simp [StartedWave.portsAt, hdst, hne, hport hne, hle]
    · intro hwalk
      have hcyclic := cyclic_up (m := 9999) (by decide) 1 n
      simpa [StartedWave.portsAt, hdst, hwalk, Function.comp_def, Nat.add_comm] using hcyclic
    · intro hne p hp
      obtain ⟨k, -, rfl⟩ := List.mem_map.mp hp
      have hle : 1 ≤ sp := by
        rcases hsp with heq | ⟨hlow, -⟩
        · exact absurd heq hne
        · exact hlow
      simp [StartedWave.portsAt, hsrc, hne, hsource hne, hle]
    · intro hwalk
      have hcyclic := cyclic_down (m := 9999) (by decide) 1 n
      simpa [StartedWave.portsAt, hsrc, hwalk, Function.comp_def, Nat.add_comm] using hcyclic

end Waves

/-- A TCP or UDP wave of a run has the ports of its attack just where the destination is
within the walk, whatever the state of the wave. -/
theorem configuredPorts_iff {env : Environment} {par : FloodParameters} {w : World}
    {later past : List Observed} {i n : Nat} {d sp type : Int}
    (h : (system env par).Reachable w) (hhistory : w.history = later ++ past)
    (hopen : openWave past = some (i, n)) (hd : w.tfn.victimPort[i]? = some d)
    (hsp : w.tfn.sourcePort[i]? = some sp) (htype : w.tfn.attackType[i]? = some type)
    (hping : type ≠ ICMP_FLOODING ∧ type ≠ SMURF_FLOODING) (hdvalid : ValidPort d)
    (hspvalid : ValidPort sp) :
    (AsConfigured d sp n (wavePorts past) ∧ SamePorts) ↔ (n = 0 ∨ d ≤ 9999) := by
  have hsame : SamePorts := fun env s draws draws' => handlerPorts_tcp_eq_udp env s
  have hwalked := (portLog_of_reachable h).walked
  rw [hhistory] at hwalked
  obtain ⟨a, ha, hports⟩ := hwalked.of_append.wavePorts_eq hopen
  obtain ⟨victimAddr, d', sp', packetSize, type', maxPacket, hd', hsp', htype', rfl⟩ :=
    attack_eq_some ha
  obtain rfl : d' = d := Option.some.inj (hd'.symm.trans hd)
  obtain rfl : sp' = sp := Option.some.inj (hsp'.symm.trans hsp)
  obtain rfl : type' = type := Option.some.inj (htype'.symm.trans htype)
  have hfunc : (setFloodingFunc type').toOption ≠ some .handlePingFlood := by
    unfold setFloodingFunc
    rw [if_neg (not_or.mpr hping)]
    split
    · nofun
    · split <;> nofun
  rw [hports hfunc, and_iff_left hsame]
  refine asConfigured_iff hspvalid rfl (fun hne => ?_) rfl fun hne => ?_
  · exact if_neg hne
  · exact if_neg hne

/-- The first packet of a zombie for port `port`. -/
def firstPacket (port : Int) : AttackPacket where
  header := .udp 7 port 8
  srcAddr := 0
  destAddr := 5
  attackTag := UDP_FLOODING
  gate := "to_ip_udp"

/-- A zombie that is to flood port `d`, after its first packet, which went to `port`. -/
def flooding (d port : Int) : World where
  tfn := { joinedZombie with
    victimPort := [d]
    floodingTime := some 12
    floodingTimes := 1
    c_victimPort := port
    packetsSent := 1 }
  startMsg := []
  history := [.sends (firstPacket port), .begins 0]

theorem asConfigured_portNine : AsConfigured 9 7 1 (wavePorts (flooding 9 9).history) := by
  have hinit : (system oneAttackLibrary oneAttack).init { tfn := idleZombie, startMsg := [10] } :=
    ⟨0, idleZombie, (idleZombie, [10]), by decide +kernel, rfl⟩
  have hstart : (system oneAttackLibrary oneAttack).step { tfn := idleZombie, startMsg := [10] }
      (.startFlooding 10 0 0) { tfn := joinedZombie, startMsg := [], history := [.begins 0] } :=
    ⟨rfl, rfl, .ok { tfn := joinedZombie, startMsg := [], history := [.begins 0] },
      by decide +kernel, rfl⟩
  have hpacket : (system oneAttackLibrary oneAttack).step
      { tfn := joinedZombie, startMsg := [], history := [.begins 0] } (.floodingTime ⟨0, 0⟩)
      (flooding 9 9) :=
    ⟨rfl, rfl, .ok (flooding 9 9), by decide +kernel, rfl⟩
  have hhistory : (flooding 9 9).history = [] ++ (flooding 9 9).history := rfl
  exact ((configuredPorts_iff (.step (.step (.init hinit) hstart) hpacket) hhistory rfl rfl rfl
    rfl (by decide) (.inr (by decide)) (.inr (by decide))).mpr (.inr (by decide))).1

/-- An attack on a port above 9999. -/
def highPort : FloodParameters :=
  { oneAttack with destinationPort := ['1', '0', '0', '0', '0'] }

/-- The packet for port 10000 goes to port 1. -/
theorem not_asConfigured_highPort :
    (system oneAttackLibrary highPort).Reachable (flooding 10000 1) ∧
      (flooding 10000 1).tfn.victimPort = [10000] ∧
      openWave (flooding 10000 1).history = some (0, 1) ∧
      ¬ AsConfigured 10000 7 1 (wavePorts (flooding 10000 1).history) := by
  have hinit : (system oneAttackLibrary highPort).init
      { tfn := { idleZombie with victimPort := [10000] }, startMsg := [10] } :=
    ⟨0, idleZombie, ({ idleZombie with victimPort := [10000] }, [10]), by decide +kernel, rfl⟩
  have hstart : (system oneAttackLibrary highPort).step
      { tfn := { idleZombie with victimPort := [10000] }, startMsg := [10] }
      (.startFlooding 10 0 0)
      { tfn := { joinedZombie with victimPort := [10000], c_victimPort := 10000 }, startMsg := []
        history := [.begins 0] } :=
    ⟨rfl, rfl, .ok _, by decide +kernel, rfl⟩
  have hpacket : (system oneAttackLibrary highPort).step
      { tfn := { joinedZombie with victimPort := [10000], c_victimPort := 10000 }, startMsg := []
        history := [.begins 0] } (.floodingTime ⟨0, 0⟩) (flooding 10000 1) :=
    ⟨rfl, rfl, .ok (flooding 10000 1), by decide +kernel, rfl⟩
  refine ⟨.step (.step (.init hinit) hstart) hpacket, rfl, rfl, fun h => ?_⟩
  exact absurd (h.destination (by decide) (1, 7) List.mem_cons_self) (by decide)

end TribeFloodNetwork

end ScadaSim.Attack
