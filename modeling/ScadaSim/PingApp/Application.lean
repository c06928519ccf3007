import ScadaSim.UdpApp.Socket

/-!
# The ping application

`GenericICMPPingApplication`: it sends the pings of a transmission, one for each
expiry of its self message, and counts the pongs.
-/

namespace ScadaSim.PingApp

open Lib Traffic
open UdpApp (Fault scheduleAt SELF_CALL_DELAY)

structure PingPayload where
  originatorId : Int
  seqNo : Int
  byteLength : Int

/-- A ping on its way, with the fields of its control information. -/
structure Ping where
  payload : PingPayload
  srcAddr : IPvXAddress
  destAddr : IPvXAddress
  hopLimit : Int

/-- `transmission` tells the transmissions of a user apart; no function reads it. -/
structure GenericICMPPingApplication where
  id : Int
  myAddr : IPvXAddress
  transmission : Nat := 0
  curProfile : TrafficProfile := {}
  curTarget : TargetInfo := .unspecified
  noRequestsToSend : Int := 0
  noBytesSend : Int := 0
  noBytesReceived : Int := 0
  noPacketSend : Int := 0
  noPacketReceived : Int := 0
  /-- `selfMsg` is scheduled. -/
  selfMsg : Bool := false

structure Effect where
  app : GenericICMPPingApplication
  ping : Option Ping := none
  report : Option (Nat × TransmissionStatistics) := none

namespace GenericICMPPingApplication

/-- The ping, and the application that has counted it. -/
def sendPing (app : GenericICMPPingApplication) (d : Draw) : GenericICMPPingApplication × Ping :=
  let packetSize := app.curProfile.getRequestLength true d
  ({ app with
      noPacketSend := int32 (app.noPacketSend + 1)
      noBytesSend := int32 (app.noBytesSend + packetSize) },
    { payload := ⟨app.id, app.noPacketSend, packetSize⟩
      srcAddr := app.myAddr
      destAddr := app.curTarget.address
      hopLimit := app.curProfile.hopLimit })

/-- The branch of `handleMessage` for the self message. -/
def timerExpired (app : GenericICMPPingApplication) (draws : Nat → Draw) :
    Except Fault Effect :=
  let left := app.noRequestsToSend
  let app := { app with selfMsg := false, noRequestsToSend := int32 (left - 1) }
  if left ≠ 0 then do
    let sent := app.sendPing (draws 0)
    let selfMsg ← scheduleAt app.selfMsg (app.curProfile.getTimeBetweenRequests true (draws 1))
    return { app := { sent.1 with selfMsg := selfMsg }, ping := some sent.2 }
  else
    .ok {
      app := app
      report := some (app.transmission,
        .ofInts app.noBytesSend app.noBytesReceived app.noPacketSend app.noPacketReceived) }

/-- A message that is no `PingPayload` is deleted. -/
def receivePong (app : GenericICMPPingApplication) (msg : Option PingPayload) :
    GenericICMPPingApplication :=
  match msg with
  | none => app
  | some pmsg =>
      if pmsg.originatorId = app.id then
        { app with
          noPacketReceived := int32 (app.noPacketReceived + 1)
          noBytesReceived := int32 (app.noBytesReceived + pmsg.byteLength) }
      else app

def transmissionStart (app : GenericICMPPingApplication) (p : TrafficProfile) (i : TargetInfo)
    (transmission : Nat) (draws : Nat → Draw) : Except Fault GenericICMPPingApplication := do
  let selfMsg ← scheduleAt app.selfMsg SELF_CALL_DELAY
  return { app with
    transmission := transmission
    curProfile := p
    curTarget := i
    noRequestsToSend := p.getRequestsPerSession true (draws 0)
    noBytesSend := 0
    noBytesReceived := 0
    noPacketSend := 0
    noPacketReceived := 0
    selfMsg := selfMsg }

theorem receivePong_same (app : GenericICMPPingApplication) (msg : Option PingPayload) :
    (app.receivePong msg).transmission = app.transmission ∧
      (app.receivePong msg).selfMsg = app.selfMsg := by
  unfold receivePong
  split
  · exact ⟨rfl, rfl⟩
  · split <;> exact ⟨rfl, rfl⟩

theorem transmissionStart_spec (app : GenericICMPPingApplication) (p : TrafficProfile)
    (i : TargetInfo) (transmission : Nat) (draws : Nat → Draw) :
    Post (fun app' => app'.transmission = transmission)
      (app.transmissionStart p i transmission draws) :=
  Post.bind_any fun _ => rfl

end GenericICMPPingApplication

end ScadaSim.PingApp
