import ScadaSim.External.HandOver
import ScadaSim.External.Pacing
import ScadaSim.External.ModbusGate
import ScadaSim.External.NotInPast
import ScadaSim.Tcp.Connection
import ScadaSim.Tcp.Limit
import ScadaSim.Lib.Scan
import ScadaSim.Routing.NodeInfo
import ScadaSim.Routing.AsIdentity
import ScadaSim.Lib.Walk
import ScadaSim.Routing.Topology
import ScadaSim.Routing.InterAs
import ScadaSim.Routing.InterAsRoutes
import ScadaSim.Routing.StubCrossing
import ScadaSim.Routing.Recompute
import ScadaSim.Routing.FoundPaths
import ScadaSim.Routing.DefaultRoutes
import ScadaSim.Routing.Forwarding
import ScadaSim.Lib.Outcome
import ScadaSim.Traffic.ConnectionManager
import ScadaSim.Traffic.ServerSelection
import ScadaSim.Lib.History
import ScadaSim.TcpApp.ClientThread
import ScadaSim.TcpApp.ServerThread
import ScadaSim.TcpApp.Session
import ScadaSim.TcpApp.Books
import ScadaSim.TcpApp.Stage
import ScadaSim.TcpApp.Safety
import ScadaSim.TcpApp.Progress
import ScadaSim.TcpApp.Admission
import ScadaSim.TcpApp.Isolation
import ScadaSim.Lib.Table
import ScadaSim.Traffic.TransmissionConfig
import ScadaSim.UdpApp.Overload
import ScadaSim.UdpApp.Exchange
import ScadaSim.UdpApp.Fragments
import ScadaSim.UdpApp.ClientSteps
import ScadaSim.UdpApp.LifeCycle
import ScadaSim.TcpApp.Application
import ScadaSim.TcpApp.ThreadTable
import ScadaSim.PingApp.Application
import ScadaSim.PingApp.Session
import ScadaSim.Lib.Custody
import ScadaSim.User.InetUser
import ScadaSim.User.Carriers
import ScadaSim.User.Host
import ScadaSim.User.OneTransmission
import ScadaSim.Lib.Tries
import ScadaSim.Traffic.Offer
import ScadaSim.Traffic.Soundness
import ScadaSim.User.AttachedProfile
import ScadaSim.Tcp.WorkerListen
import ScadaSim.Lib.Cells
import ScadaSim.Modbus.Receive
import ScadaSim.Modbus.Query
import ScadaSim.Modbus.Footprint
import ScadaSim.Modbus.Bounds
import ScadaSim.Modbus.Session
import ScadaSim.UdpApp.SocketVector
import ScadaSim.UdpApp.ReplyVolume
import ScadaSim.Attack.Timer
import ScadaSim.Attack.UDPWormVictim
import ScadaSim.Attack.Outbreak
import ScadaSim.Attack.TribeFloodNetwork
import ScadaSim.External.NextMessage
import ScadaSim.External.Oversleep
import ScadaSim.Traffic.ForeignDecision
import ScadaSim.Tcp.IgnoredSegment
import ScadaSim.Tcp.FailedCommand
import ScadaSim.Lib.Text
import ScadaSim.Lib.Number
import ScadaSim.Traffic.ProfileFile
import ScadaSim.Traffic.ProfileLines
import ScadaSim.Traffic.ProfileBlocks
import ScadaSim.Traffic.KeptBlocks
import ScadaSim.Traffic.RoundTrip
import ScadaSim.Traffic.LostValues
import ScadaSim.Lib.Cumulative
import ScadaSim.Traffic.Sampling
import ScadaSim.User.RetryLoop
import ScadaSim.User.Life
import ScadaSim.User.Leavable
import ScadaSim.User.TwiceInARow
import ScadaSim.Traffic.NetworkProbability
import ScadaSim.Traffic.Fairness
import ScadaSim.Routing.Extract
import ScadaSim.Routing.Addresses
import ScadaSim.Routing.Membership
import ScadaSim.Routing.EndToEnd
import ScadaSim.Lib.Arrivals
import ScadaSim.Attack.StartOrder
import ScadaSim.Lib.Cycle
import ScadaSim.Attack.Ports
import ScadaSim.Attack.Waves
import ScadaSim.External.StartUp
import ScadaSim.External.LiveGates
import ScadaSim.Queue.DropTailTraceQueue
import ScadaSim.Ip.IPHack
import ScadaSim.Ip.Trace
import ScadaSim.Ip.Sources
