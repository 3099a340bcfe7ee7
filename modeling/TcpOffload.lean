import TcpOffload.ArpServer.CacheHits
import TcpOffload.ArpServer.Network
import TcpOffload.ArpServer.Receiver
import TcpOffload.ArpServer.ScanAnswers
import TcpOffload.EventEngine.Delivery
import TcpOffload.Handshake.OurWindow
import TcpOffload.Handshake.PassiveOpen
import TcpOffload.Handshake.PeerWindow
import TcpOffload.HashTable.FailedInserts
import TcpOffload.HeaderChecksums
import TcpOffload.HeaderRoundTrip
import TcpOffload.IcmpServer
import TcpOffload.IcmpServer.EchoReplies
import TcpOffload.IcmpServer.Packets
import TcpOffload.InternetChecksum
import TcpOffload.Library.AnswerLog
import TcpOffload.Library.Completions
import TcpOffload.Library.LastingValue
import TcpOffload.Library.OrderedMerge
import TcpOffload.MemoryAccess.Commands
import TcpOffload.MemoryAccess.ReadBack
import TcpOffload.MemoryAccess.RingStore
import TcpOffload.MemoryAccess.StatusHandlers
import TcpOffload.MemoryAccess.WriteData
import TcpOffload.Notifications
import TcpOffload.Notifications.RoleIds
import TcpOffload.PacketHandler
import TcpOffload.PacketHandler.Identify
import TcpOffload.PortTable.CheckOrder
import TcpOffload.PortTable.FreePorts
import TcpOffload.PortTable.OpenFailures
import TcpOffload.PortTable.Reservation
import TcpOffload.RxAppIntf.ReadRequests
import TcpOffload.RxEngine.AckWindow
import TcpOffload.RxEngine.AdvertisedWindow
import TcpOffload.RxEngine.ClosedTimers
import TcpOffload.RxEngine.CongWindow
import TcpOffload.RxEngine.FastRetransmit
import TcpOffload.RxEngine.OptionsTermination
import TcpOffload.RxEngine.OwnSession
import TcpOffload.RxEngine.PastFin
import TcpOffload.RxEngine.PayloadBytes
import TcpOffload.RxEngine.PayloadForwarding
import TcpOffload.RxEngine.PeerClosed
import TcpOffload.RxEngine.PseudoFrames
import TcpOffload.RxEngine.ReceivedBytes
import TcpOffload.RxEngine.RightEdge
import TcpOffload.RxEngine.RingRuns
import TcpOffload.RxEngine.SendWindowWrites
import TcpOffload.RxEngine.StateLock
import TcpOffload.RxEngine.StreamRuns
import TcpOffload.RxEngine.SynOptions
import TcpOffload.RxEngine.WindowGrowth
import TcpOffload.SessionLookup.HashCam
import TcpOffload.StateTable.Atomic
import TcpOffload.StateTable.Diagram
import TcpOffload.Timers.AckDelay
import TcpOffload.Timers.AckDelayExpiry
import TcpOffload.Timers.CloseTimerExpiry
import TcpOffload.Timers.OwnReleases
import TcpOffload.Timers.ProbeCover
import TcpOffload.Timers.ProbeCoverRuns
import TcpOffload.Timers.ProbeTimer
import TcpOffload.Timers.ProbeTimerExpiry
import TcpOffload.Timers.RetransmitBudget
import TcpOffload.Timers.RetransmitOrder
import TcpOffload.Timers.SendCoverRuns
import TcpOffload.TxAppIntf.FailedWrites
import TcpOffload.TxAppIntf.RingSpace
import TcpOffload.TxAppIntf.SentBytes
import TcpOffload.TxAppIntf.WritePointers
import TcpOffload.TxEngine.Ipv4Frames
import TcpOffload.TxEngine.Ipv4Packet
import TcpOffload.TxEngine.LookupPhase
import TcpOffload.TxEngine.OwnAnswers
import TcpOffload.TxEngine.SegmentFrames
import TcpOffload.TxEngine.SendRange
import TcpOffload.TxEngine.Service
import TcpOffload.TxEngine.SlowStart
import TcpOffload.WordFrames
