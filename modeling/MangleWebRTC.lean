import MangleWebRTC.Machine.TransitionSystem
import MangleWebRTC.Machine.Inevitability
import MangleWebRTC.Machine.PrefixParser
import MangleWebRTC.Machine.LengthPrefix
import MangleWebRTC.Machine.Mailbox
import MangleWebRTC.Machine.RoundProtocol
import MangleWebRTC.Machine.PartialWrite
import MangleWebRTC.Machine.Pool
import MangleWebRTC.Machine.KeyedTable
import MangleWebRTC.Machine.Slots
import MangleWebRTC.Machine.Files
import MangleWebRTC.Upgrade.Transport
import MangleWebRTC.Upgrade.Framing
import MangleWebRTC.Upgrade.RoundTrip
import MangleWebRTC.Upgrade.Receiver
import MangleWebRTC.Upgrade.CancelSafety
import MangleWebRTC.Upgrade.HostileStream
import MangleWebRTC.Upgrade.ReceiveBuffer
import MangleWebRTC.Upgrade.Signaling
import MangleWebRTC.Upgrade.Link
import MangleWebRTC.Upgrade.IceExchange
import MangleWebRTC.Upgrade.Client
import MangleWebRTC.Upgrade.Server
import MangleWebRTC.Upgrade.Session
import MangleWebRTC.Upgrade.SessionSteps
import MangleWebRTC.Upgrade.Gathering
import MangleWebRTC.Upgrade.Traffic
import MangleWebRTC.Upgrade.SessionInvariant
import MangleWebRTC.Upgrade.SessionRuns
import MangleWebRTC.Upgrade.Fidelity
import MangleWebRTC.Upgrade.Delivery
import MangleWebRTC.Upgrade.Awake
import MangleWebRTC.Upgrade.Progress
import MangleWebRTC.Upgrade.Deadlock
import MangleWebRTC.Upgrade.Effort
import MangleWebRTC.Upgrade.Completion
import MangleWebRTC.Upgrade.Program
import MangleWebRTC.Upgrade.Ends
import MangleWebRTC.Upgrade.Unordered
import MangleWebRTC.Upgrade.Refinement
import MangleWebRTC.Upgrade.ConnectionTask
import MangleWebRTC.Upgrade.HonestTask
import MangleWebRTC.Upgrade.UpgradeCall
import MangleWebRTC.Upgrade.HonestCall
import MangleWebRTC.Upgrade.Lifecycle
import MangleWebRTC.Upgrade.RunLoop
import MangleWebRTC.Upgrade.HeadOfLine
import MangleWebRTC.Upgrade.Shutdown
import MangleWebRTC.Upgrade.TlsFiles
import MangleWebRTC.Upgrade.RootCreation
import MangleWebRTC.Tunnel.Outbound
import MangleWebRTC.Tunnel.UdpListener
import MangleWebRTC.Tunnel.Inbox
import MangleWebRTC.Tunnel.ClientTcp
import MangleWebRTC.Tunnel.ClientRelay
import MangleWebRTC.Tunnel.InboundRelay
import MangleWebRTC.Tunnel.EndOfFile
import MangleWebRTC.Tunnel.Config
import MangleWebRTC.Tunnel.Server
import MangleWebRTC.Tunnel.ServerSteps
import MangleWebRTC.Tunnel.ServerInvariant
import MangleWebRTC.Tunnel.EarlyMessages
import MangleWebRTC.Tunnel.ServerRelay
import MangleWebRTC.Tunnel.Routing
import MangleWebRTC.Tunnel.Exposure
import MangleWebRTC.Tunnel.UdpSessions
import MangleWebRTC.Tunnel.UdpIsolation
import MangleWebRTC.Tunnel.ClientCommand
import MangleWebRTC.Tunnel.OpenOrder
import MangleWebRTC.Tunnel.Blocked
import MangleWebRTC.Tunnel.Independence
import MangleWebRTC.Tunnel.ServerCommand
import MangleWebRTC.Tunnel.TunnelClient
import MangleWebRTC.Tunnel.TunnelClientSteps
import MangleWebRTC.Tunnel.TunnelClientInvariant
import MangleWebRTC.Tunnel.ServerService
import MangleWebRTC.Tunnel.TunnelSession
import MangleWebRTC.Tunnel.TunnelTraffic
import MangleWebRTC.Tunnel.TunnelIsolation
import MangleWebRTC.Tunnel.Startup
import MangleWebRTC.Tunnel.AcceptOrder
import MangleWebRTC.Upgrade.TlsTrust
import MangleWebRTC.Upgrade.ServerHandle
import MangleWebRTC.Upgrade.Retention
import MangleWebRTC.Upgrade.ChannelLabels
import MangleWebRTC.Tunnel.WholeClient
import MangleWebRTC.Tunnel.AnswerDelivery
