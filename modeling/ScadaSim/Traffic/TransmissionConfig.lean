import ScadaSim.Traffic.Profile

/-!
# What the applications share

The random values of a traffic profile and the statistics of transmissions. A
value drawn from a distribution is an argument, `Draw`: nothing is assumed about
it, and simulation time is left out but for the sign of a delay.
-/

namespace ScadaSim.Traffic

/-- Arithmetic on `int`, in two's complement. -/
def int32 (x : Int) : Int := (x + 2147483648) % 4294967296 - 2147483648

theorem int32_eq {x : Int} (hlow : -2147483648 ≤ x) (hhigh : x < 2147483648) : int32 x = x := by
  unfold int32
  omega

theorem int32_zero : int32 ((0 : Nat) : Int) = 0 := int32_eq (by decide) (by decide)

theorem int32_succ (n : Nat) : int32 (int32 n + 1) = int32 ((n + 1 : Nat) : Int) := by
  unfold int32
  omega

theorem int32_int32_add (a b : Int) : int32 (int32 a + b) = int32 (a + b) := by
  unfold int32
  omega

theorem int32_int32_sub (a b : Int) : int32 (int32 a - b) = int32 (a - b) :=
  int32_int32_add a (-b)

/-- Sums that wrap to the same counter. -/
theorem int32_add_eq_iff {x a b : Int} :
    int32 (x + a) = int32 (x + b) ↔ (a - b) % 4294967296 = 0 := by
  unfold int32
  omega

inductive ApplicationType
  | notSet
  | udpApp
  | icmpApp
  | tcpApp
  deriving DecidableEq

def MAX_PACKET_SIZE : Nat := 60000

/-- What the generator returns in a call: `(int) normal(0,1)`, the size and the
time drawn from a pareto distribution. -/
structure Draw where
  normal : Int
  size : Nat
  time : Rat

namespace TrafficProfile

def noisyLength (d : Draw) : Int :=
  if d.size < MAX_PACKET_SIZE then d.size else MAX_PACKET_SIZE

def getRequestLength (p : TrafficProfile) (noisy : Bool) (d : Draw) : Int :=
  if noisy then noisyLength d else p.requestLength

def getRequestsPerSession (p : TrafficProfile) (noisy : Bool) (d : Draw) : Int :=
  if noisy then int32 (d.normal.natAbs + p.requestsPerSession) else p.requestsPerSession

def getReplyLength (p : TrafficProfile) (noisy : Bool) (d : Draw) : Int :=
  if noisy then noisyLength d else p.replyLength

def getReplyPerRequest (p : TrafficProfile) (noisy : Bool) (d : Draw) : Int :=
  if noisy then int32 (d.normal.natAbs + p.replyPerRequest) else p.replyPerRequest

def getTimeBetweenRequests (p : TrafficProfile) (noisy : Bool) (d : Draw) : Rat :=
  if noisy then d.time else p.timeBetweenRequests

def getTimeToRespond (p : TrafficProfile) (noisy : Bool) (d : Draw) : Rat :=
  if noisy then d.time else p.timeToRespond

def getTimeBetweenSessions (p : TrafficProfile) (noisy : Bool) (d : Draw) : Rat :=
  if noisy then d.time else p.timeBetweenSessions

end TrafficProfile

/-- The counters are `unsigned long`. -/
structure TransmissionStatistics where
  bytesSent : UInt64 := 0
  bytesReceived : UInt64 := 0
  packetSent : UInt64 := 0
  packetReceived : UInt64 := 0
  deriving DecidableEq

namespace TransmissionStatistics

/-- The constructor, which takes its values as `int`. -/
def ofInts (bytesSent bytesReceived packetSent packetReceived : Int) :
    TransmissionStatistics where
  bytesSent := .ofInt bytesSent
  bytesReceived := .ofInt bytesReceived
  packetSent := .ofInt packetSent
  packetReceived := .ofInt packetReceived

/-- Field by field, modulo 2^64. -/
def add (s t : TransmissionStatistics) : TransmissionStatistics where
  bytesSent := s.bytesSent + t.bytesSent
  bytesReceived := s.bytesReceived + t.bytesReceived
  packetSent := s.packetSent + t.packetSent
  packetReceived := s.packetReceived + t.packetReceived

end TransmissionStatistics

structure UserCommunicationStatistics where
  total : TransmissionStatistics := {}
  tcp : TransmissionStatistics := {}
  udp : TransmissionStatistics := {}
  icmp : TransmissionStatistics := {}
  totalSessions : UInt64 := 0
  tcpSessions : UInt64 := 0
  udpSessions : UInt64 := 0
  icmpSessions : UInt64 := 0
  deriving DecidableEq

namespace UserCommunicationStatistics

def updateStatistics (c : UserCommunicationStatistics) (stat : TransmissionStatistics) :
    UserCommunicationStatistics :=
  { c with total := c.total.add stat, totalSessions := c.totalSessions + 1 }

def updateTcpStatistics (c : UserCommunicationStatistics) (stat : TransmissionStatistics) :
    UserCommunicationStatistics :=
  { c with tcp := c.tcp.add stat, tcpSessions := c.tcpSessions + 1 }

def updateUdpStatistics (c : UserCommunicationStatistics) (stat : TransmissionStatistics) :
    UserCommunicationStatistics :=
  { c with udp := c.udp.add stat, udpSessions := c.udpSessions + 1 }

def updateIcmpStatistics (c : UserCommunicationStatistics) (stat : TransmissionStatistics) :
    UserCommunicationStatistics :=
  { c with icmp := c.icmp.add stat, icmpSessions := c.icmpSessions + 1 }

end UserCommunicationStatistics

end ScadaSim.Traffic
