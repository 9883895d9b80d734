import ServerLib.Library.Transition
import ServerLib.Library.Incremental
import ServerLib.Library.OrderedMap
import ServerLib.Library.FifoPool
import ServerLib.Library.Sessions
import ServerLib.Library.LittleEndian
import ServerLib.Library.History
import ServerLib.Library.Progress
import ServerLib.Library.Quota
import ServerLib.Library.Network
import ServerLib.Library.Turns
import ServerLib.Socket
import ServerLib.Framer
import ServerLib.PktHandleThread
import ServerLib.CommonServer
import ServerLib.RoundTrip
import ServerLib.Isolation
import ServerLib.Dispatch
import ServerLib.PacketOrder
import ServerLib.PacketLifetime
import ServerLib.PacketProgress
import ServerLib.SocketInfoManager
import ServerLib.ShardedRegistry
import ServerLib.ProxyData
import ServerLib.Udp
import ServerLib.UdpProxy
import ServerLib.UdpNetwork
import ServerLib.Watcher
import ServerLib.TcpServer
import ServerLib.TcpServerEffects
import ServerLib.CrossTalk
import ServerLib.TcpServerSessions
import ServerLib.TcpServerOutput
import ServerLib.TcpServerDescriptors
import ServerLib.TcpServerLifeCycle
import ServerLib.TcpServerTimeout
import ServerLib.Segmentation
import ServerLib.ContentManager
import ServerLib.TcpClient
import ServerLib.TcpClientEffects
import ServerLib.TcpClientWatcher
import ServerLib.MessageBoundaries
import ServerLib.TcpClientConservation
import ServerLib.TcpClientFailure
import ServerLib.TcpClientWakeUp
import ServerLib.SocketCalls
import ServerLib.InterruptedClient
import ServerLib.DoubleClose
import ServerLib.TcpProxyClient
import ServerLib.TcpProxy
import ServerLib.TcpProxyForwarding
import ServerLib.TcpClientAnnouncement
import ServerLib.SetUp
import ServerLib.ConnectionFraming
import ServerLib.WholeServer
import ServerLib.WholeServerLayers
import ServerLib.EchoServer
import ServerLib.CommonEchoServer
import ServerLib.EchoedPackets
import ServerLib.EchoNetwork
import ServerLib.PacketEchoNetwork
import ServerLib.TestClient
import ServerLib.TestClientTotals
import ServerLib.TestNetwork
import ServerLib.TestPacketNetwork
