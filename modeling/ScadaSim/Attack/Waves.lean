import Mathlib.Tactic.Linarith
import Mathlib.Tactic.Ring
import ScadaSim.Attack.StartOrder

/-!
# Waves in time

The generator with a clock: its messages come when they are due, and the history says when
something was observed. A record is all that is left of a wave after a simulation. It
tells what has been sent: the packets of a wave are a train with equal distances, from
`attackStart` on, so that start, end and number of packets of a record determine each
other up to one packet, `Regular`.
-/

namespace ScadaSim.Attack

open Lib

namespace TribeFloodNetwork

/-- The latest observation is first. -/
abbrev Timeline := List (Rat × Observed)

/-- The packets of the wave that is open, the latest first. -/
def wavePackets : Timeline → List (Rat × AttackPacket)
  | [] => []
  | (_, .begins _) :: _ => []
  | (t, .sends packet) :: past => (t, packet) :: wavePackets past
  | (_, .records _) :: _ => []

/-- `n` times with the distance `delay`, the latest first. -/
def train (start delay : Rat) : Nat → List Rat
  | 0 => []
  | n + 1 => (start + n * delay) :: train start delay n

/-- The next packet is due after another `delay`. -/
theorem train_next (start delay : Rat) (n : Nat) :
    start + ((n + 1 : Nat) : Rat) * delay = start + n * delay + delay := by
  push_cast
  ring

/-- The time between two packets. -/
def delay (par : FloodParameters) : Rat := par.timeBetweenPacketMin + par.timeBetweenPacketDiff

/-- What a record says of the packets since its wave has begun, for the lists `maxPacket` and
`victimAddr` of the generator. A wave without a limit has a negative one, and the first
packet is sent in any case. -/
structure Regular (par : FloodParameters) (maxPacket : List Int)
    (victimAddr : List Traffic.IPvXAddress) (past : Timeline) (t : Rat) (r : AttackScalars) :
    Prop where
  times : (wavePackets past).map Prod.fst = train r.attackStart (delay par) r.packetsSent
  victim : ∃ v, victimAddr[r.attackIndex]? = some v ∧ ∀ x ∈ wavePackets past, x.2.destAddr = v
  limit : ∃ m, maxPacket[r.attackIndex]? = some m ∧ (0 ≤ m → (r.packetsSent : Int) ≤ max 1 m)
  ends : r.attackEnd = t
  notEarlier : r.attackStart + (r.packetsSent - 1) * delay par ≤ r.attackEnd
  notLater : r.attackEnd ≤ r.attackStart + r.packetsSent * delay par

/-- So are all records. -/
def AllRegular (par : FloodParameters) (maxPacket : List Int)
    (victimAddr : List Traffic.IPvXAddress) : Timeline → Prop
  | [] => True
  | (t, .records r) :: past =>
      Regular par maxPacket victimAddr past t r ∧ AllRegular par maxPacket victimAddr past
  | (_, .begins _) :: past => AllRegular par maxPacket victimAddr past
  | (_, .sends _) :: past => AllRegular par maxPacket victimAddr past

/-! ## The clock -/

structure Clocked where
  tfn : TribeFloodNetwork
  startMsg : List Rat
  now : Rat
  seen : Timeline := []
  finished : Bool := false

namespace Clocked

/-- No message is due before. -/
def Quiet (s : Clocked) (t : Rat) : Prop :=
  s.now ≤ t ∧ (∀ u ∈ s.startMsg, t ≤ u) ∧ ∀ u ∈ s.tfn.floodingTime, t ≤ u

instance (s : Clocked) (t : Rat) : Decidable (s.Quiet t) :=
  inferInstanceAs (Decidable (_ ∧ _ ∧ _))

def observe (s : Clocked) (t : Rat) (r : TribeFloodNetwork × List Observed) : Clocked :=
  { s with tfn := r.1, now := t, seen := r.2.map (fun e => (t, e)) ++ s.seen }

/-- An error ends the simulation. Messages for one time come in any order. -/
inductive Step (env : Environment) (par : FloodParameters) : Clocked → Event → Clocked → Prop
  | startFlooding {s : Clocked} {t prob prob' : Rat} {r : TribeFloodNetwork × List Observed} :
      s.finished = false → t ∈ s.startMsg → s.Quiet t →
        s.tfn.startFlooding env par t prob prob' = .ok r →
        Step env par s (.startFlooding t prob prob')
          { s.observe t r with startMsg := s.startMsg.erase t }
  | floodingTime {s : Clocked} {t : Rat} {draw : PacketDraw}
      {r : TribeFloodNetwork × List Observed} :
      s.finished = false → s.tfn.floodingTime = some t → s.Quiet t →
        s.tfn.sendAttackPacket env t draw = .ok r →
        Step env par s (.floodingTime draw) (s.observe t r)
  | networkMessage {s : Clocked} {t : Rat} : s.finished = false → s.Quiet t →
      Step env par s .networkMessage (s.observe t (s.tfn, []))
  | finish {s : Clocked} {t : Rat} : s.finished = false → s.Quiet t →
      Step env par s (.finish t) { s.observe t (s.tfn.finish t) with finished := true }

end Clocked

/-- The generator from `initialize` on. -/
def clocked (env : Environment) (par : FloodParameters) : TSys Clocked Event where
  init s := ∃ simTime raw r, initializeModule env par simTime raw = .ok r ∧
    s = { tfn := r.1, startMsg := r.2, now := simTime }
  step := Clocked.Step env par

/-! ## A wave -/

section Waves

variable {env : Environment} {par : FloodParameters} {maxPacket : List Int}
  {victimAddr : List Traffic.IPvXAddress} {t t' prob prob' : Rat} {s s' : TribeFloodNetwork}
  {past : Timeline}

/-- The parameters have been set at `t`. -/
structure Begun (par : FloodParameters) (t : Rat) (s s' : TribeFloodNetwork) : Prop where
  delay_eq : s'.c_floodingDelay = delay par
  attackStart : s'.attackStart = t + delay par
  floodingTimes : s'.floodingTimes = 0
  packetsSent : s'.packetsSent = s.packetsSent
  isActive : s'.isActive = s.isActive
  maxPackets : s'.maxPacket = s.maxPacket
  victims : s'.victimAddr = s.victimAddr
  limit : s.maxPacket[s'.attackIndex]? = some s'.c_maxPacket
  victim : s.victimAddr[s'.attackIndex]? = some s'.c_victimAddr

theorem setCurrentFloodingParameter_begun :
    Post (fun s' => Begun par t s s' ∧ s'.floodingTime = none)
      (s.setCurrentFloodingParameter env par t s.index) := by
  unfold setCurrentFloodingParameter
  split
  · exact Post.error _
  · refine access_eq_ok.bind fun victimPort hvictimPort => ?_
    refine access_eq_ok.bind fun sourcePort hsourcePort => ?_
    refine access_eq_ok.bind fun victimAddr hvictimAddr => ?_
    refine access_eq_ok.bind fun packetSize hpacketSize => ?_
    refine access_eq_ok.bind fun attackType hattackType => ?_
    refine Post.bind_any fun floodFunc => ?_
    refine access_eq_ok.bind fun maxPacket hmaxPacket => ?_
    split
    · exact Post.error _
    · exact ⟨⟨rfl, rfl, rfl, rfl, rfl, rfl, rfl, hmaxPacket, hvictimAddr⟩, rfl⟩

/-- The timer is set for the first packet. -/
theorem beginWave_begun :
    Post (fun r => Begun par t s r.1 ∧ r.1.floodingTime = some (t + delay par) ∧
      0 ≤ delay par ∧ ∃ i, r.2 = [.begins i]) (s.beginWave env par t) := by
  unfold beginWave
  refine setCurrentFloodingParameter_begun.bind fun s' hs' => ?_
  obtain ⟨hbegun, htimer⟩ := hs'
  rw [htimer, hbegun.delay_eq]
  by_cases hneg : delay par < 0
  · rw [scheduleAt, if_pos hneg]
    exact Post.error _
  · rw [scheduleAt, if_neg hneg, ok_bind]
    exact ⟨⟨rfl, hbegun.attackStart, hbegun.floodingTimes, hbegun.packetsSent,
      hbegun.isActive, hbegun.maxPackets, hbegun.victims, hbegun.limit, hbegun.victim⟩, rfl,
      not_lt.mp hneg, _, rfl⟩

/-- A wave that goes on, at the time `now`. -/
structure Waving (par : FloodParameters) (s : TribeFloodNetwork) (now : Rat) (past : Timeline) :
    Prop where
  nonneg : 0 ≤ delay par
  delay_eq : s.c_floodingDelay = delay par
  times : (wavePackets past).map Prod.fst = train s.attackStart (delay par) s.packetsSent
  target : ∀ x ∈ wavePackets past, x.2.destAddr = s.c_victimAddr
  victim : s.victimAddr[s.attackIndex]? = some s.c_victimAddr
  limit : s.maxPacket[s.attackIndex]? = some s.c_maxPacket
  floodingTimes : s.floodingTimes = s.packetsSent
  timer : s.floodingTime = some (s.attackStart + s.packetsSent * delay par)
  notEarlier : s.attackStart + (s.packetsSent - 1) * delay par ≤ now
  left : 0 ≤ s.c_maxPacket → (s.packetsSent : Int) < max 1 s.c_maxPacket

/-- The generator between two messages. -/
structure Course (par : FloodParameters) (maxPacket : List Int)
    (victimAddr : List Traffic.IPvXAddress) (s : TribeFloodNetwork) (now : Rat)
    (past : Timeline) : Prop where
  regular : AllRegular par maxPacket victimAddr past
  maxPackets : s.maxPacket = maxPacket
  victims : s.victimAddr = victimAddr
  active : s.isActive = true → Waving par s now past
  idle : s.isActive = false → s.floodingTime = none ∧ s.packetsSent = 0

/-- A wave begins. -/
theorem Waving.begins (hbegun : Begun par t s s') (hnonneg : 0 ≤ delay par)
    (htimer : s'.floodingTime = some (t + delay par)) (hcount : s.packetsSent = 0) (i : Nat) :
    Waving par s' t ((t, .begins i) :: past) := by
  have hzero : s'.packetsSent = 0 := hbegun.packetsSent.trans hcount
  refine ⟨hnonneg, hbegun.delay_eq, ?_, fun x hx => absurd hx List.not_mem_nil,
    hbegun.victims ▸ hbegun.victim, hbegun.maxPackets ▸ hbegun.limit, ?_, ?_, ?_, fun _ => ?_⟩
  · rw [hzero]
    rfl
  · rw [hbegun.floodingTimes, hzero]
    rfl
  · rw [htimer, hbegun.attackStart, hzero, Nat.cast_zero, zero_mul, add_zero]
  · rw [hbegun.attackStart, hzero, Nat.cast_zero]
    linarith
  · rw [hzero]
    omega

theorem Waving.later {now : Rat} (h : Waving par s now past) (hnow : now ≤ t) :
    Waving par s t past :=
  { h with notEarlier := h.notEarlier.trans hnow }

/-- Whether the zombie is active, and the number of the next attack, do not matter. -/
theorem Waving.congr {now : Rat} (h : Waving par s now past) {isActive : Bool} {index : Nat} :
    Waving par { s with isActive := isActive, index := index } now past :=
  ⟨h.nonneg, h.delay_eq, h.times, h.target, h.victim, h.limit, h.floodingTimes, h.timer,
    h.notEarlier, h.left⟩

/-- The record of a wave that has sent no packet since `now`. -/
theorem Waving.regular {now : Rat} (h : Waving par s now past) (hnow : now ≤ t)
    (hdue : t ≤ s.attackStart + s.packetsSent * delay par) :
    Regular par s.maxPacket s.victimAddr past t (s.recordAttackScalars t).2 where
  times := h.times
  victim := ⟨_, h.victim, h.target⟩
  limit := ⟨_, h.limit, fun hm => (h.left hm).le⟩
  ends := rfl
  notEarlier := h.notEarlier.trans hnow
  notLater := hdue

/-- Every packet goes to the victim. -/
theorem flood_destAddr (env : Environment) (s : TribeFloodNetwork) (draw : PacketDraw) :
    (s.flood env draw).2.destAddr = s.c_victimAddr := by
  unfold flood
  split <;> rfl

theorem Waving.packets {now : Rat} (h : Waving par s now past) (htimer : s.floodingTime = some t)
    {packet : AttackPacket} (hdest : packet.destAddr = s.c_victimAddr) :
    (wavePackets ((t, .sends packet) :: past)).map Prod.fst =
        train s.attackStart (delay par) (s.packetsSent + 1) ∧
      ∀ x ∈ wavePackets ((t, .sends packet) :: past), x.2.destAddr = s.c_victimAddr := by
  have ht := Option.some.inj (htimer.symm.trans h.timer)
  refine ⟨?_, List.forall_mem_cons.mpr ⟨hdest, h.target⟩⟩
  show t :: (wavePackets past).map Prod.fst = _
  rw [h.times, ht]
  rfl

/-- One packet more, and then there are some left or there is a record. -/
theorem Course.sends {now : Rat} (h : Course par maxPacket victimAddr s now past)
    (hactive : s.isActive = true) (htimer : s.floodingTime = some t) (draw : PacketDraw) :
    Post (fun r => Course par maxPacket victimAddr r.1 t (r.2.map (fun e => (t, e)) ++ past))
      (s.sendAttackPacket env t draw) := by
  have hwave := h.active hactive
  have ht := Option.some.inj (htimer.symm.trans hwave.timer)
  have hnonneg := hwave.nonneg
  obtain ⟨c_sourcePort, c_victimPort, hflood⟩ :=
    flood_spec env { s with floodingTime := none } draw
  have hdest := flood_destAddr env { s with floodingTime := none } draw
  unfold sendAttackPacket
  generalize { s with floodingTime := none }.flood env draw = sentPacket at hflood hdest ⊢
  obtain ⟨s', packet⟩ := sentPacket
  obtain rfl : s' = _ := hflood
  obtain ⟨htimes, htarget⟩ := hwave.packets htimer hdest
  have hcount : s.floodingTimes + 1 = ((s.packetsSent + 1 : Nat) : Int) := by
    rw [hwave.floodingTimes]
    rfl
  have hfirst : s.attackStart + (((s.packetsSent + 1 : Nat) : Rat) - 1) * delay par ≤ t := by
    rw [ht, Nat.cast_succ, add_sub_cancel_right]
  dsimp only
  split
  · rename_i hmore
    rw [hwave.delay_eq, scheduleAt, if_neg (not_lt.mpr hnonneg), ok_bind]
    refine ⟨h.regular, h.maxPackets, h.victims, fun _ => ?_, fun hidle => ?_⟩
    · refine ⟨hnonneg, rfl, htimes, htarget, hwave.victim, hwave.limit, hcount, ?_, hfirst, ?_⟩
      · show some (t + delay par) =
          some (s.attackStart + ((s.packetsSent + 1 : Nat) : Rat) * delay par)
        rw [ht, train_next]
      · intro hm
        have hmore' : s.floodingTimes + 1 < s.c_maxPacket := hmore.resolve_right (not_lt.mpr hm)
        show ((s.packetsSent + 1 : Nat) : Int) < max 1 s.c_maxPacket
        omega
    · exact absurd (hactive.symm.trans hidle) Bool.false_ne_true.symm
  · refine ⟨⟨?_, h.regular⟩, h.maxPackets, h.victims,
      fun hactive' => absurd hactive' Bool.false_ne_true, fun _ => ⟨rfl, rfl⟩⟩
    refine ⟨htimes, ⟨_, h.victims ▸ hwave.victim, htarget⟩, ⟨_, h.maxPackets ▸ hwave.limit, ?_⟩,
      rfl, hfirst, ?_⟩
    · intro hm
      have hleft := hwave.left hm
      show ((s.packetsSent + 1 : Nat) : Int) ≤ max 1 s.c_maxPacket
      omega
    · show t ≤ s.attackStart + ((s.packetsSent + 1 : Nat) : Rat) * delay par
      rw [ht, train_next]
      exact le_add_of_nonneg_right hnonneg

/-- The open wave is recorded before something else happens. -/
theorem Course.record {now : Rat} (h : Course par maxPacket victimAddr s now past)
    (hactive : s.isActive = true) (hnow : now ≤ t)
    (hdue : ∀ u, s.floodingTime = some u → t ≤ u) :
    AllRegular par maxPacket victimAddr ((t, .records (s.recordAttackScalars t).2) :: past) := by
  have hwave := h.active hactive
  have hregular := hwave.regular hnow (hdue _ hwave.timer)
  rw [h.maxPackets, h.victims] at hregular
  exact ⟨hregular, h.regular⟩

theorem Course.decideAttack {now : Rat} (h : Course par maxPacket victimAddr s now past)
    (hnow : now ≤ t) (hdue : ∀ u, s.floodingTime = some u → t ≤ u) :
    Post (fun r => Course par maxPacket victimAddr r.1 t (r.2.map (fun e => (t, e)) ++ past))
      (s.decideAttack env par t prob prob') := by
  unfold TribeFloodNetwork.decideAttack
  by_cases hactive : s.isActive = true
  · have hrecord := h.record hactive hnow hdue
    rw [if_pos hactive]
    split
    · -- the next wave begins where the record has closed the last one
      refine beginWave_begun.bind fun r hr => ?_
      obtain ⟨hbegun, htimer, hnonneg, i, hseen⟩ := hr
      obtain ⟨s', seen⟩ := r
      obtain rfl : seen = _ := hseen
      have hwaving : Waving par s' t
          ((t, .begins i) :: (t, .records (s.recordAttackScalars t).2) :: past) :=
        .begins hbegun hnonneg htimer rfl i
      have hactive' : s'.isActive = true := hbegun.isActive.trans hactive
      exact ⟨hrecord, hbegun.maxPackets.trans h.maxPackets, hbegun.victims.trans h.victims,
        fun _ => hwaving, fun hidle => absurd (hactive'.symm.trans hidle) Bool.false_ne_true.symm⟩
    · split
      · exact ⟨hrecord, h.maxPackets, h.victims,
          fun hactive' => absurd hactive' Bool.false_ne_true, fun _ => ⟨rfl, rfl⟩⟩
      · refine ⟨h.regular, h.maxPackets, h.victims, fun _ => ?_, h.idle⟩
        exact (h.active hactive).later hnow
  · have hidle : s.isActive = false := Bool.eq_false_iff.mpr hactive
    rw [if_neg hactive]
    split
    · refine beginWave_begun.bind fun r hr => ?_
      obtain ⟨hbegun, htimer, hnonneg, i, hseen⟩ := hr
      obtain ⟨s', seen⟩ := r
      obtain rfl : seen = _ := hseen
      have hwaving : Waving par s' t ((t, .begins i) :: past) :=
        .begins hbegun hnonneg htimer (h.idle hidle).2 i
      exact ⟨h.regular, hbegun.maxPackets.trans h.maxPackets, hbegun.victims.trans h.victims,
        fun _ => hwaving.congr, fun hidle' => absurd hidle'.symm Bool.false_ne_true⟩
    · exact ⟨h.regular, h.maxPackets, h.victims, fun hact => absurd hact hactive, h.idle⟩

theorem Course.startFlooding {now : Rat} (h : Course par maxPacket victimAddr s now past)
    (hnow : now ≤ t) (hdue : ∀ u, s.floodingTime = some u → t ≤ u) :
    Post (fun r => Course par maxPacket victimAddr r.1 t (r.2.map (fun e => (t, e)) ++ past))
      (s.startFlooding env par t prob prob') := by
  refine (h.decideAttack hnow hdue).bind fun decided hdecided => ?_
  exact ⟨hdecided.regular, hdecided.maxPackets, hdecided.victims,
    fun hactive => (hdecided.active hactive).congr, hdecided.idle⟩

end Waves

/-! ## Every run -/

/-- The invariant. After `finish` no message follows. -/
structure InTime (par : FloodParameters) (maxPacket : List Int)
    (victimAddr : List Traffic.IPvXAddress) (s : Clocked) : Prop where
  regular : AllRegular par maxPacket victimAddr s.seen
  course : s.finished = false → Course par maxPacket victimAddr s.tfn s.now s.seen

section Runs

variable {env : Environment} {par : FloodParameters} {maxPacket : List Int}
  {victimAddr : List Traffic.IPvXAddress} {s s' : Clocked} {e : Event}

theorem InTime.of_course (h : Course par maxPacket victimAddr s.tfn s.now s.seen) :
    InTime par maxPacket victimAddr s :=
  ⟨h.regular, fun _ => h⟩

theorem InTime.init (hinit : (clocked env par).init s) :
    InTime par s.tfn.maxPacket s.tfn.victimAddr s := by
  obtain ⟨simTime, raw, r, hr, rfl⟩ := hinit
  obtain ⟨-, -, hcount, hidle, htimer, -⟩ := initializeModule_spec.of_ok hr
  exact .of_course ⟨trivial, rfl, rfl,
    fun hactive => absurd (hidle.symm.trans hactive) Bool.false_ne_true, fun _ => ⟨htimer, hcount⟩⟩

theorem InTime.step (h : InTime par maxPacket victimAddr s)
    (hstep : Clocked.Step env par s e s') : InTime par maxPacket victimAddr s' := by
  cases hstep with
  | startFlooding hgoing _ hquiet hr =>
      exact .of_course (((h.course hgoing).startFlooding hquiet.1 hquiet.2.2).of_ok hr)
  | @floodingTime t draw r hgoing htimer hquiet hr =>
      have hcourse := h.course hgoing
      have hactive : s.tfn.isActive = true := by
        by_contra hidle
        have hnone := (hcourse.idle (Bool.eq_false_iff.mpr hidle)).1
        exact Option.some_ne_none t (htimer.symm.trans hnone)
      exact .of_course ((hcourse.sends hactive htimer draw).of_ok hr)
  | networkMessage hgoing hquiet =>
      have hcourse := h.course hgoing
      exact .of_course ⟨hcourse.regular, hcourse.maxPackets, hcourse.victims,
        fun hactive => (hcourse.active hactive).later hquiet.1, hcourse.idle⟩
  | @finish t hgoing hquiet =>
      have hcourse := h.course hgoing
      refine ⟨?_, fun hgoing' => absurd hgoing'.symm Bool.false_ne_true⟩
      show AllRegular par maxPacket victimAddr
        ((s.tfn.finish t).2.map (fun e => (t, e)) ++ s.seen)
      unfold TribeFloodNetwork.finish
      split
      · rename_i hactive
        exact hcourse.record hactive hquiet.1 hquiet.2.2
      · exact hcourse.regular

/-- Whenever the start messages come, whatever is drawn, and whenever the simulation ends. -/
theorem always_regular {tr : List (Event × Clocked)} (hinit : (clocked env par).init s)
    (hrun : (clocked env par).Run s tr) :
    TSys.Always (fun s' => AllRegular par s.tfn.maxPacket s.tfn.victimAddr s'.seen) s tr :=
  (hrun.always (fun _ _ _ h hstep => h.step hstep) (InTime.init hinit)).mono fun _ h => h.regular

end Runs

/-! ### Two packets -/

/-- The simulation at second 0. -/
def clockedZombie : Clocked where
  tfn := idleZombie
  startMsg := [10]
  now := 0

/-- What a message leads to. -/
def resultOf (s : TribeFloodNetwork) (x : Handled) : TribeFloodNetwork × List Observed :=
  x.toOption.getD (s, [])

def twoPackets : List (Event × Clocked) :=
  let joined := resultOf idleZombie (idleZombie.startFlooding oneAttackLibrary oneAttack 10 0 0)
  let first := resultOf joined.1 (joined.1.sendAttackPacket oneAttackLibrary 11 ⟨0, 0⟩)
  let second := resultOf first.1 (first.1.sendAttackPacket oneAttackLibrary 12 ⟨0, 0⟩)
  let s₁ : Clocked := { clockedZombie.observe 10 joined with startMsg := [] }
  let s₂ := s₁.observe 11 first
  [(.startFlooding 10 0 0, s₁), (.floodingTime ⟨0, 0⟩, s₂),
    (.floodingTime ⟨0, 0⟩, s₂.observe 12 second)]

theorem run_twoPackets : (clocked oneAttackLibrary oneAttack).Run clockedZombie twoPackets :=
  ⟨.startFlooding rfl (by decide) (by decide +kernel) (by decide +kernel),
    .floodingTime rfl (by decide +kernel) (by decide +kernel) (by decide +kernel),
    .floodingTime rfl (by decide +kernel) (by decide +kernel) (by decide +kernel), trivial⟩

theorem always_regular_twoPackets :
    TSys.Always (fun s => AllRegular oneAttack [2] [5] s.seen) clockedZombie twoPackets :=
  always_regular ⟨0, idleZombie, (idleZombie, [10]), by decide +kernel, rfl⟩ run_twoPackets

/-- From second 11 to second 12. -/
example : (TSys.finish clockedZombie twoPackets).seen.head? =
    some (12, .records ⟨0, 11, 12, 2⟩) := by
  decide +kernel

end TribeFloodNetwork

end ScadaSim.Attack
